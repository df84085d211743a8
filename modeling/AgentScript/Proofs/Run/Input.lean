import AgentScript.Proofs.Context.Interpolation
import AgentScript.Proofs.Run.Intact

set_option autoImplicit false

/-! # Inputs and tokens

Code that reads an input is given the value that is bound to the key, or else what the token of the
key stands for. The token goes another way: it looks up the name that the key begins with. The two
ways come to the same text, unless the key has a dot and is bound as a whole
(`RunM.readInput_agrees`). Then the code is given the value that it is bound to, and the token does
not look at that value. -/

namespace AgentScript

namespace Context

variable {c : Context} {key : String}

/-- A path of several steps is bound as if it were a name. -/
def BindsPath (c : Context) (key : String) : Prop :=
  '.' ∈ key.toList ∧ (c.get? key).isSome

instance (c : Context) (key : String) : Decidable (c.BindsPath key) :=
  inferInstanceAs (Decidable (_ ∧ _))

theorem isReadable_of_isPath (h : IsPath key.toList) (hdot : '.' ∉ key.toList) :
    IsReadable key := by
  obtain ⟨hne, hpath⟩ := h
  refine ⟨fun hempty => hne (String.toList_eq_nil_iff.2 hempty), fun x hx => ?_⟩
  have hother : x ≠ '.' := fun heq => hdot (heq ▸ hx)
  simpa [Text.isPathChar, hother] using hpath x hx

/-- A path with a dot begins with a name that is shorter. -/
theorem firstStep_ne (h : '.' ∈ key.toList) : firstStep key ≠ key := by
  intro heq
  have hfirst : key.toList.takeWhile (· != '.') = key.toList :=
    String.toList_ofList.symm.trans (congrArg String.toList heq)
  have hall := List.takeWhile_eq_self_iff.1 hfirst '.' h
  simp at hall

/-- The token of a path with a dot does not look at what the whole path is bound to. -/
theorem resolve_tokenOf_put (h : IsPath key.toList) (hdot : '.' ∈ key.toList) (v : Value) :
    (c.put key v).resolve (tokenOf key) = c.resolve (tokenOf key) := by
  have hlookup : (c.put key v).lookup key = c.lookup key :=
    lookup_congr (Bindings.get?_put_of_ne _ (firstStep_ne hdot) v)
  have hpieces : (c.put key v).resolvePieces [.token key.toList]
      = c.resolvePieces [.token key.toList] := by
    refine resolvePieces_congr fun path hmem => ?_
    cases List.mem_singleton.1 hmem
    rw [String.ofList_toList, hlookup]
  rw [resolve, resolve, pieces_tokenOf h, hpieces]

end Context

open Context (IsPath tokenOf)

namespace Run

variable {run : Run} {key : String}

/-- The text of what code gets to know when it reads an input. -/
def inputText (run : Run) (key : String) : Except Failure String := do
  (← run.input key).toText

theorem input_of_some {v : Value} (h : run.context.get? key = some v) : run.input key = .ok v := by
  rw [input, h]

/-- A key that is not bound is read as its token. -/
theorem inputText_of_none (h : run.context.get? key = none) :
    run.inputText key = run.context.resolve (tokenOf key) := by
  rw [inputText, input, h]
  show (do ((← (run.context.resolve (tokenOf key)).map Value.str)).toText) = _
  cases run.context.resolve (tokenOf key) <;> rfl

theorem inputText_of_some {v : Value} (h : run.context.get? key = some v) :
    run.inputText key = v.toText := by
  rw [inputText, input_of_some h]
  rfl

/-- Code and tokens read the same, failures included, unless the key is a path that is bound. -/
theorem inputText_eq_resolve (h : IsPath key.toList) (hbinds : ¬ run.context.BindsPath key) :
    run.inputText key = run.context.resolve (tokenOf key) := by
  cases hv : run.context.get? key with
  | none => exact inputText_of_none hv
  | some v =>
      have hdot : '.' ∉ key.toList := fun hdot => hbinds ⟨hdot, by rw [hv]; rfl⟩
      rw [inputText_of_some hv, Context.resolve_tokenOf (Context.isReadable_of_isPath h hdot) hv]

end Run

/-- Reading an input changes nothing. What the code gets to know has the text that the token of the
    key stands for, and one read fails just as the other one does, unless the key is a path of
    several steps that is itself bound. Then the code is given the value that it is bound to,
    whereas the token stands for the same text whatever that value is. -/
theorem RunM.readInput_agrees (run : Run) {key : String} (h : IsPath key.toList) :
    (readInput key).from run = .done (run.input key, run)
      ∧ (¬ run.context.BindsPath key → run.inputText key = run.context.resolve (tokenOf key))
      ∧ (run.context.BindsPath key →
        (∃ v, run.context.get? key = some v ∧ run.input key = .ok v)
          ∧ ∀ u, (run.context.put key u).resolve (tokenOf key)
            = run.context.resolve (tokenOf key)) := by
  refine ⟨from_readInput key run, Run.inputText_eq_resolve h, ?_⟩
  rintro ⟨hdot, hbound⟩
  obtain ⟨v, hv⟩ := Option.isSome_iff_exists.1 hbound
  exact ⟨⟨v, hv, Run.input_of_some hv⟩, Context.resolve_tokenOf_put h hdot⟩

/-- A run in which an order is kept, and a path into it is bound as well. -/
def Run.ordered : Run :=
  { context := Context.initial (.str "") (.str "")
      [("order", .dict [(.str "id", .int 7)]), ("order.due", .str "today")] }

theorem RunM.readInput_agrees_ordered :
    (IsPath "order.id".toList ∧ ¬ Run.ordered.context.BindsPath "order.id"
        ∧ (readInput "order.id").from .ordered = .done (Run.ordered.input "order.id", .ordered)
        ∧ Run.ordered.inputText "order.id" = Run.ordered.context.resolve (tokenOf "order.id")
        ∧ (Run.ordered.inputText "order.id").toOption = some "7")
      ∧ IsPath "order.due".toList ∧ Run.ordered.context.BindsPath "order.due"
        ∧ (∃ v, Run.ordered.context.get? "order.due" = some v
          ∧ Run.ordered.input "order.due" = .ok v)
        ∧ (Run.ordered.context.put "order.due" .null).resolve (tokenOf "order.due")
          = Run.ordered.context.resolve (tokenOf "order.due") := by
  have hid : IsPath "order.id".toList := by decide
  have hdue : IsPath "order.due".toList := by decide
  have hfree : ¬ Run.ordered.context.BindsPath "order.id" := by decide
  have hbound : Run.ordered.context.BindsPath "order.due" := by decide
  obtain ⟨hread, hagree, -⟩ := readInput_agrees .ordered hid
  obtain ⟨-, -, hdiffer⟩ := readInput_agrees .ordered hdue
  obtain ⟨hv, hput⟩ := hdiffer hbound
  exact ⟨⟨hid, hfree, hread, hagree hfree, by decide +kernel⟩, hdue, hbound, hv, hput .null⟩

/-- Collaborators with a sandbox in which all code sets an output under a name with a dot. -/
def Collaborators.settingPath : Collaborators :=
  { Collaborators.replying fun prompt _ => .ok prompt with
    sandbox := some
      { boot := fun _ => {}
        run := fun _ _ => .write "a.b" (.int 1) fun _ => .finish (.ok .null) } }

/-- The state after a script whose code sets an output under a name with a dot. -/
def Run.withPath : Run :=
  ((World.initial {} 0).play .settingPath
    (runScript "start beforePrompt\nexecute(run)\nend beforePrompt" (.str ""))).1.2

/-- Code reads back what it has set under a name with a dot, but the token of the name does not. -/
theorem Run.withPath_unread :
    IsPath "a.b".toList ∧ (withPath.inputText "a.b").toOption = some "1"
      ∧ (withPath.context.resolve (tokenOf "a.b")).toOption = some "[a.b]" := by
  decide +kernel

end AgentScript
