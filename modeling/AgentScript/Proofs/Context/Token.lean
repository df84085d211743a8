import AgentScript.Context.Template
import AgentScript.Proofs.Text.Line
import AgentScript.Proofs.Text.Word
import Mathlib.Data.List.TakeWhile

set_option autoImplicit false

/-! # Names in templates

Any text may be bound as a name, but a token is a path of word characters and dots. A name of word
characters is what its token reads (`resolve_tokenOf`). No token reads another name: where only such
names are bound, a text that begins with a bracket keeps it (`head?_resolve_bracket`). -/

namespace AgentScript.Context

/-- Whether a name can be written in a token: it is not empty and has word characters only. -/
def IsReadable (name : String) : Prop :=
  name ≠ "" ∧ ∀ x ∈ name.toList, Text.isWordChar x

instance (name : String) : Decidable (IsReadable name) :=
  @instDecidableAnd _ _ inferInstance (List.decidableBAll _ _)

/-- The token of a name. -/
def tokenOf (name : String) : String :=
  "[" ++ name ++ "]"

theorem tokenOf_toList (name : String) : (tokenOf name).toList = '[' :: (name.toList ++ [']']) := by
  simp [tokenOf, String.toList_append]

/-! ## Paths -/

/-- A path that can stand in a token: it is not empty and has word characters and dots only. -/
def IsPath (path : List Char) : Prop :=
  path ≠ [] ∧ ∀ x ∈ path, Text.isPathChar x

instance (path : List Char) : Decidable (IsPath path) :=
  @instDecidableAnd _ _ inferInstance (List.decidableBAll _ _)

/-- After an opening bracket, a token is a path with a closing bracket after it. -/
theorem tokenPath?_eq_some_iff {s path rest : List Char} :
    tokenPath? s = some (path, rest) ↔ IsPath path ∧ path ++ ']' :: rest = s := by
  constructor
  · intro h
    unfold tokenPath? at h
    split at h
    · next c front after hpath hrest =>
        cases h
        refine ⟨⟨List.cons_ne_nil c front, fun x hx => ?_⟩, ?_⟩
        · exact List.mem_takeWhile_imp (hpath ▸ hx)
        · rw [← hpath, ← hrest, List.takeWhile_append_dropWhile]
    · cases h
  · rintro ⟨⟨hne, hpath⟩, rfl⟩
    have hstop : ∀ x ∈ (']' :: rest).head?, Text.isPathChar x = false := by
      rintro x ⟨⟩
      decide
    rw [tokenPath?, Text.takeWhile_run hpath hstop, Text.dropWhile_run hpath hstop]
    cases path with
    | nil => exact absurd rfl hne
    | cons x path => rfl

theorem pieces_token {path : List Char} (h : IsPath path) (rest : List Char) :
    pieces ('[' :: (path ++ ']' :: rest)) = .token path :: pieces rest := by
  have htoken : tokenPath? (path ++ ']' :: rest) = some (path, rest) :=
    tokenPath?_eq_some_iff.2 ⟨h, rfl⟩
  rw [pieces, if_pos rfl]
  split
  · next path' after hfound =>
      rw [htoken] at hfound
      cases hfound
      rfl
  · next hfound =>
      rw [htoken] at hfound
      cases hfound

theorem pieces_tokenOf {path : String} (h : IsPath path.toList) :
    pieces (tokenOf path).toList = [.token path.toList] := by
  rw [tokenOf_toList, pieces_token h, pieces]

/-- The token of a path stands for the value that the path leads to. -/
theorem resolve_tokenOf_some {c : Context} {path : String} {v : Value} (h : IsPath path.toList)
    (hv : c.lookup path = .ok (some v)) : c.resolve (tokenOf path) = v.toText := by
  have hpiece : (Piece.token path.toList).resolve c = v.toText.map String.toList := by
    rw [Piece.resolve, String.ofList_toList, hv]
    change (do return (← v.toText).toList) = v.toText.map String.toList
    cases v.toText <;> rfl
  rw [resolve, pieces_tokenOf h, resolvePieces, resolvePieces, hpiece]
  cases v.toText with
  | error f => rfl
  | ok text =>
      change Except.ok (String.ofList (text.toList ++ [])) = _
      rw [List.append_nil, String.ofList_toList]

/-- The token of a path that leads nowhere stands for itself. -/
theorem resolve_tokenOf_none {c : Context} {path : String} (h : IsPath path.toList)
    (hnone : c.lookup path = .ok none) : c.resolve (tokenOf path) = .ok (tokenOf path) := by
  have hpiece : (Piece.token path.toList).resolve c = .ok (tokenOf path).toList := by
    rw [Piece.resolve, String.ofList_toList, hnone, tokenOf_toList]
    rfl
  rw [resolve, pieces_tokenOf h, resolvePieces, resolvePieces, hpiece]
  change Except.ok (String.ofList ((tokenOf path).toList ++ [])) = _
  rw [List.append_nil, String.ofList_toList]

/-! ## Names that tokens read -/

theorem steps_of_isReadable {name : String} (h : IsReadable name) : steps name = [name] := by
  have hdot : '.' ∉ name.toList := fun hmem => absurd (h.2 '.' hmem) (by decide)
  rw [steps, Text.splitOnChar_of_not_mem hdot, List.map_singleton, String.ofList_toList]

theorem isPath_of_isReadable {name : String} (h : IsReadable name) : IsPath name.toList := by
  refine ⟨fun hnil => h.1 (String.toList_eq_nil_iff.1 hnil), fun x hx => ?_⟩
  rw [Text.isPathChar, h.2 x hx, Bool.true_or]

/-- The token of a name stands for the value of the name. -/
theorem resolve_tokenOf {c : Context} {name : String} {v : Value} (h : IsReadable name)
    (hv : c.get? name = some v) : c.resolve (tokenOf name) = v.toText := by
  refine resolve_tokenOf_some (isPath_of_isReadable h) ?_
  simp only [lookup, steps_of_isReadable h, hv]
  rfl

/-! ## Names that no token reads -/

/-- The first step of a path of word characters and dots has word characters only. -/
theorem head_steps {path : List Char} (h : ∀ x ∈ path, Text.isPathChar x) :
    ∃ head rest, steps (String.ofList path) = head :: rest
      ∧ ∀ x ∈ head.toList, Text.isWordChar x := by
  obtain ⟨rest, hrest⟩ := Text.splitOnChar_eq_cons '.' path
  refine ⟨String.ofList (path.takeWhile (· != '.')), rest.map String.ofList, ?_, ?_⟩
  · rw [steps, String.toList_ofList, hrest, List.map_cons]
  · rw [String.toList_ofList]
    intro x hx
    have hdot : x ≠ '.' := by simpa using List.mem_takeWhile_imp hx
    have hx : Text.isPathChar x := h x ((List.takeWhile_prefix _).subset hx)
    simpa [Text.isPathChar, hdot] using hx

/-- A context in which no name of word characters is bound. -/
def BindsNoWord (c : Context) : Prop :=
  ∀ name, (∀ x ∈ name.toList, Text.isWordChar x) → c.get? name = none

theorem resolve_token_of_bindsNoWord {c : Context} (h : c.BindsNoWord) {path : List Char}
    (hpath : ∀ x ∈ path, Text.isPathChar x) :
    (Piece.token path).resolve c = .ok ('[' :: path ++ [']']) := by
  obtain ⟨head, rest, hsteps, hhead⟩ := head_steps hpath
  have hlookup : c.lookup (String.ofList path) = .ok none := by
    simp only [lookup, hsteps, h head hhead]
  rw [Piece.resolve, hlookup]
  rfl

/-- An opening bracket stays where no token can be read. -/
theorem head?_resolve_bracket {c : Context} (h : c.BindsNoWord) {s : List Char} {text : String}
    (htext : c.resolve (String.ofList ('[' :: s)) = .ok text) :
    text.toList.head? = some '[' := by
  have hpiece : ∃ p rest chars, pieces ('[' :: s) = p :: rest
      ∧ p.resolve c = .ok ('[' :: chars) := by
    rw [pieces, if_pos rfl]
    split
    · next path after hfound =>
        exact ⟨_, _, _, rfl, resolve_token_of_bindsNoWord h (tokenPath?_eq_some_iff.1 hfound).1.2⟩
    · exact ⟨_, _, [], rfl, rfl⟩
  obtain ⟨p, rest, chars, hpieces, hp⟩ := hpiece
  rw [resolve, String.toList_ofList, hpieces, resolvePieces, hp] at htext
  cases hrest : c.resolvePieces rest with
  | error f =>
      rw [hrest] at htext
      cases htext
  | ok texts =>
      rw [hrest] at htext
      obtain rfl : String.ofList ('[' :: chars ++ texts) = text := Except.ok.inj htext
      rw [String.toList_ofList]
      rfl

end AgentScript.Context
