import AgentScript.Proofs.Bindings
import AgentScript.Proofs.Context.Interpolation
import AgentScript.Proofs.Value.Depth
import AgentScript.Proofs.Value.JsonText
import AgentScript.Proofs.Value.Path

set_option autoImplicit false

/-! # When resolving fails

A token is looked up by the name that its path begins with; a bound text that looks like JSON is
decoded before further steps are taken. The path leads to a value, leads nowhere or is obstructed
(`lookup_iff`). In a context of values of ordinary size, resolving a text fails just in case the
path of one of its tokens is obstructed (`resolve_unobstructed`), for the values have texts. -/

namespace AgentScript

/-! ## Values of ordinary size -/

/-- A value of ordinary size: its integers are exact as floating-point numbers, and its lists and
    dictionaries are not nested very deep. -/
structure Value.IsModest (v : Value) : Prop where
  isMadeOf : v.isMadeOf fun n => n.natAbs < 2 ^ 53
  nesting_le : v.nesting ≤ 300

theorem Value.IsModest.isWritable {v : Value} (h : v.IsModest) : v.IsWritable := by
  refine isMadeOf_mono (fun n hn => ?_) v h.isMadeOf
  have hdigits : (Nat.toDigits 10 n.natAbs).length ≤ digitLimit := by
    rw [Nat.length_toDigits_le_iff (by decide) (by decide)]
    calc n.natAbs
        < 2 ^ 53 := of_decide_eq_true hn
      _ ≤ 10 ^ 16 := by decide
      _ ≤ 10 ^ digitLimit := Nat.pow_le_pow_right (by decide) (by decide)
  rw [Decimal.writeInteger?]
  simp [hdigits]

namespace Context

/-- A context whose values all have texts. -/
def IsWritable (c : Context) : Prop :=
  ∀ e ∈ c.bindings.entries, e.2.IsWritable

/-- A context of values of ordinary size. -/
def IsModest (c : Context) : Prop :=
  ∀ e ∈ c.bindings.entries, e.2.IsModest

/-! ## Where tokens lead -/

variable {c : Context} {path : String}

/-- A path leads to the value of its name, or on from there. -/
inductive LeadsTo (c : Context) (path : String) : Value → Prop
  | name {name : String} {v : Value} (hpath : steps path = [name]) (hv : c.get? name = some v) :
      LeadsTo c path v
  | inside {name : String} {rest : List String} {v inner w : Value}
      (hpath : steps path = name :: rest) (hrest : rest ≠ []) (hv : c.get? name = some v)
      (hinner : v.decodeJson = .ok inner) (hw : inner.LeadsTo rest w) : LeadsTo c path w

/-- A path is obstructed: its name is bound to a text that is nested too deep to be decoded, or a
    later step is obstructed. -/
inductive Obstructs (c : Context) (path : String) : Prop
  | tooDeep {name : String} {rest : List String} {v : Value} (hpath : steps path = name :: rest)
      (hrest : rest ≠ []) (hv : c.get? name = some v) (hdeep : v.IsTooDeep) : Obstructs c path
  | inside {name : String} {rest : List String} {v inner : Value}
      (hpath : steps path = name :: rest) (hrest : rest ≠ []) (hv : c.get? name = some v)
      (hinner : v.decodeJson = .ok inner) (hstep : inner.Obstructs rest) : Obstructs c path

theorem lookup_name {name : String} {v : Value} (hpath : steps path = [name])
    (hv : c.get? name = some v) : c.lookup path = .ok (some v) := by
  rw [lookup, hpath]
  simp only [hv]
  rfl

theorem lookup_inside {name : String} {rest : List String} {v : Value}
    (hpath : steps path = name :: rest) (hrest : rest ≠ []) (hv : c.get? name = some v) :
    c.lookup path = (do (← v.decodeJson).follow rest) := by
  rw [lookup, hpath]
  simp only [hv, List.isEmpty_iff, if_neg hrest]

theorem LeadsTo.lookup {w : Value} (h : c.LeadsTo path w) : c.lookup path = .ok (some w) := by
  cases h with
  | name hpath hv => exact lookup_name hpath hv
  | inside hpath hrest hv hinner hw =>
      rw [lookup_inside hpath hrest hv, hinner]
      exact hw.follow

theorem Obstructs.lookup (h : c.Obstructs path) : ∃ f, c.lookup path = .error f := by
  cases h with
  | tooDeep hpath hrest hv hdeep =>
      obtain ⟨f, hf⟩ := Value.exists_decodeJson_error_iff.2 hdeep
      rw [lookup_inside hpath hrest hv, hf]
      exact ⟨f, rfl⟩
  | inside hpath hrest hv hinner hstep =>
      rw [lookup_inside hpath hrest hv, hinner]
      exact hstep.follow

theorem leadsTo_or_obstructs (c : Context) (path : String) :
    (∃ w, c.LeadsTo path w) ∨ c.Obstructs path ∨ c.lookup path = .ok none := by
  obtain ⟨rest, hpath⟩ := steps_eq_cons path
  cases hv : c.get? (firstStep path) with
  | none =>
      refine .inr (.inr ?_)
      rw [Context.lookup, hpath]
      simp only [hv]
  | some v =>
      by_cases hrest : rest = []
      · subst hrest
        exact .inl ⟨v, .name hpath hv⟩
      -- the value is decoded first, and the rest of the path starts in what comes out
      cases hinner : v.decodeJson with
      | error f =>
          have hdeep := Value.exists_decodeJson_error_iff.1 ⟨f, hinner⟩
          exact .inr (.inl (.tooDeep hpath hrest hv hdeep))
      | ok inner =>
          rcases inner.leadsTo_or_obstructs rest with ⟨w, hw⟩ | hstep | hnone
          · exact .inl ⟨w, .inside hpath hrest hv hinner hw⟩
          · exact .inr (.inl (.inside hpath hrest hv hinner hstep))
          · refine .inr (.inr ?_)
            rw [lookup_inside hpath hrest hv, hinner]
            exact hnone

/-- Looking up a path finds the value that it leads to, and fails just in case it is obstructed. -/
theorem lookup_iff (c : Context) (path : String) :
    (∀ w, c.lookup path = .ok (some w) ↔ c.LeadsTo path w)
      ∧ ((∃ f, c.lookup path = .error f) ↔ c.Obstructs path) :=
  search_iff (fun _ => LeadsTo.lookup) Obstructs.lookup (leadsTo_or_obstructs c path)

theorem LeadsTo.isWritable {w : Value} (h : c.LeadsTo path w) (hc : c.IsWritable) :
    w.IsWritable := by
  cases h with
  | name _ hv => exact hc _ (Bindings.mem_of_lookupIn_eq_some hv)
  | inside _ _ hv hinner hw =>
      have hv := hc _ (Bindings.mem_of_lookupIn_eq_some hv)
      exact hw.isWritable (Value.isWritable_decodeJson hinner hv)

/-- A path is not obstructed if its steps write positions where they look like it and it does not
    begin in a text with very many opening brackets. -/
theorem not_obstructs
    (hsteps : ∀ key ∈ (steps path).tail, LooksLikePosition key → ∃ n, IsPosition key n)
    (htext : ∀ text, c.get? (firstStep path) = some (.str text) →
      text.toList.countP Value.isOpening ≤ Value.nestingLimit) : ¬ c.Obstructs path := by
  obtain ⟨rest', hfirst⟩ := steps_eq_cons path
  intro h
  cases h with
  | tooDeep hpath _ hv hdeep =>
      rw [hfirst] at hpath
      cases hpath
      obtain ⟨text, -, rfl, -⟩ := id hdeep
      exact Nat.not_lt_of_le (htext text hv) hdeep.lt_openings
  | inside hpath _ _ _ hstep =>
      obtain ⟨key, hmem, hlooks, hnone⟩ := hstep.exists_step
      rw [hpath] at hsteps
      obtain ⟨n, hn⟩ := hsteps key hmem hlooks
      exact hnone n hn

/-! ## Resolving -/

theorem exists_resolvePieces_iff {ps : List Piece} :
    (∃ s, c.resolvePieces ps = .ok s) ↔ ∀ p ∈ ps, ∃ s, p.resolve c = .ok s := by
  induction ps with
  | nil => exact ⟨fun _ => List.forall_mem_nil _, fun _ => ⟨[], rfl⟩⟩
  | cons p ps ih =>
      rw [List.forall_mem_cons, ← ih, resolvePieces]
      constructor
      · rintro ⟨s, hs⟩
        cases hp : p.resolve c with
        | error f =>
            rw [hp] at hs
            cases hs
        | ok text =>
            cases hps : c.resolvePieces ps with
            | error f =>
                rw [hp, hps] at hs
                cases hs
            | ok texts => exact ⟨⟨text, rfl⟩, ⟨texts, rfl⟩⟩
      · rintro ⟨⟨text, htext⟩, ⟨texts, htexts⟩⟩
        rw [htext, htexts]
        exact ⟨text ++ texts, rfl⟩

theorem exists_resolve_token_iff (hc : c.IsWritable) {path : List Char} :
    (∃ s, (Piece.token path).resolve c = .ok s) ↔ ¬ c.Obstructs (String.ofList path) := by
  rw [← (lookup_iff c _).2, Piece.resolve]
  cases hfound : c.lookup (String.ofList path) with
  | error f =>
      refine ⟨?_, fun h => absurd ⟨f, rfl⟩ h⟩
      rintro ⟨s, ⟨⟩⟩
  | ok found =>
      refine ⟨?_, fun _ => ?_⟩
      · rintro - ⟨f, ⟨⟩⟩
      cases found with
      | none => exact ⟨_, rfl⟩
      | some v =>
          -- what a path leads to has a text, because the values of the context have
          have hv := ((lookup_iff c _).1 v).1 hfound
          obtain ⟨text, htext⟩ := Value.exists_toText (hv.isWritable hc)
          change ∃ s, (do return (← v.toText).toList) = Except.ok s
          rw [htext]
          exact ⟨text.toList, rfl⟩

/-- Where all values have texts, resolving a text fails just in case one of its tokens has a path
    that is obstructed. -/
theorem exists_resolve_iff (hc : c.IsWritable) {text : String} :
    (∃ out, c.resolve text = .ok out)
      ↔ ∀ path : String, HasToken text.toList path.toList → ¬ c.Obstructs path := by
  have hpieces : (∃ out, c.resolve text = .ok out)
      ↔ ∃ s, c.resolvePieces (pieces text.toList) = .ok s := by
    rw [resolve]
    cases c.resolvePieces (pieces text.toList) with
    | error f => constructor <;> rintro ⟨s, ⟨⟩⟩
    | ok s => exact ⟨fun _ => ⟨s, rfl⟩, fun _ => ⟨_, rfl⟩⟩
  rw [hpieces, exists_resolvePieces_iff]
  constructor
  · intro h path hpath
    have hpath := (exists_resolve_token_iff hc).1 (h _ (mem_pieces_of_hasToken hpath))
    rwa [String.ofList_toList] at hpath
  · intro h p hp
    cases p with
    | char x => exact ⟨[x], rfl⟩
    | token path =>
        refine (exists_resolve_token_iff hc).2 (h _ ?_)
        rw [String.toList_ofList]
        exact hasToken_of_mem_pieces hp

/-- In a context of values of ordinary size, resolving a text fails just in case the path of one of
    its tokens is obstructed. It takes a step of digits that writes no position or a text with very
    many opening brackets to obstruct a path. A token whose path is not obstructed and leads to no
    value stays as it is. -/
theorem resolve_unobstructed (hc : c.IsModest) :
    (∀ text : String, (∃ out, c.resolve text = .ok out)
        ↔ ∀ path : String, HasToken text.toList path.toList → ¬ c.Obstructs path)
      ∧ (∀ path : String,
        (∀ key ∈ (steps path).tail, LooksLikePosition key → ∃ n, IsPosition key n) →
        (∀ text, c.get? (firstStep path) = some (.str text) →
          text.toList.countP Value.isOpening ≤ Value.nestingLimit) → ¬ c.Obstructs path)
      ∧ ∀ a path b : String, IsPath path.toList → ¬ c.Obstructs path → (∀ v, ¬ c.LeadsTo path v) →
        c.resolve (a ++ tokenOf path ++ b)
          = do return (← c.resolve a) ++ tokenOf path ++ (← c.resolve b) := by
  have hwritable : c.IsWritable := fun e he => (hc e he).isWritable
  refine ⟨fun text => exists_resolve_iff hwritable, fun path hsteps htext =>
    not_obstructs hsteps htext, fun a path b hpath hfree hnowhere => ?_⟩
  have hnone : c.lookup path = .ok none :=
    ((leadsTo_or_obstructs c path).resolve_left (not_exists.2 hnowhere)).resolve_left hfree
  rw [resolve_around_token, resolve_tokenOf_none hpath hnone]
  rfl

/-- A context with a list of one item and a text that is not JSON although it looks like it. -/
def shelf : Context :=
  ⟨.ofList [("x", .list [.int 1]), ("note", .str "[draft")]⟩

theorem isModest_shelf : shelf.IsModest := by
  intro e he
  change e ∈ [("x", Value.list [.int 1]), ("note", .str "[draft")] at he
  rcases List.mem_pair.1 he with rfl | rfl
  · exact ⟨rfl, by decide⟩
  · exact ⟨rfl, by decide⟩

theorem obstructs_shelf : shelf.Obstructs "x.²" :=
  (lookup_iff _ _).2.1 ⟨.badNumeral "²", rfl⟩

theorem resolve_unobstructed_shelf :
    shelf.IsModest
      ∧ (HasToken "[x.²]".toList "x.²".toList ∧ shelf.Obstructs "x.²"
        ∧ ¬ ∃ out, shelf.resolve "[x.²]" = .ok out)
      ∧ ((∀ key ∈ (steps "note.0").tail, LooksLikePosition key → ∃ n, IsPosition key n)
        ∧ (∀ text, shelf.get? (firstStep "note.0") = some (.str text) →
          text.toList.countP Value.isOpening ≤ Value.nestingLimit)
        ∧ ¬ shelf.Obstructs "note.0")
      ∧ (IsPath "x.7".toList ∧ ¬ shelf.Obstructs "x.7" ∧ (∀ v, ¬ shelf.LeadsTo "x.7" v)
        ∧ shelf.resolve ("item " ++ tokenOf "x.7" ++ "?")
          = do return (← shelf.resolve "item ") ++ tokenOf "x.7" ++ (← shelf.resolve "?")) := by
  obtain ⟨hfails, hfree, hkept⟩ := resolve_unobstructed isModest_shelf
  have htoken : HasToken "[x.²]".toList "x.²".toList := ⟨by decide, [], [], rfl⟩
  have hsteps : ∀ key ∈ (steps "note.0").tail, LooksLikePosition key → ∃ n, IsPosition key n := by
    intro key hkey _
    change key ∈ ["0"] at hkey
    obtain rfl := List.mem_singleton.1 hkey
    exact ⟨0, (readNatural_eq_ok_iff (by decide)).1 rfl⟩
  have htext : ∀ text, shelf.get? (firstStep "note.0") = some (.str text) →
      text.toList.countP Value.isOpening ≤ Value.nestingLimit := by
    intro text h
    change some (Value.str "[draft") = some (.str text) at h
    cases h
    decide
  have hnone : shelf.lookup "x.7" = .ok none := rfl
  have hunobstructed : ¬ shelf.Obstructs "x.7" := by
    rw [← (lookup_iff _ _).2, hnone]
    rintro ⟨f, ⟨⟩⟩
  have hnowhere : ∀ v, ¬ shelf.LeadsTo "x.7" v := by
    intro v
    rw [← (lookup_iff _ _).1, hnone]
    rintro ⟨⟩
  exact ⟨isModest_shelf,
    ⟨htoken, obstructs_shelf, fun hout => (hfails _).1 hout "x.²" htoken obstructs_shelf⟩,
    ⟨hsteps, htext, hfree _ hsteps htext⟩,
    ⟨by decide, hunobstructed, hnowhere, hkept _ _ _ (by decide) hunobstructed hnowhere⟩⟩

/-- A superscript is a digit but writes no position, so a token with it is not left as it is. -/
theorem resolve_superscript :
    shelf.IsModest ∧ shelf.resolve "[x.²]" = .error (.badNumeral "²") := by
  refine ⟨isModest_shelf, ?_⟩
  have hpath : IsPath "x.²".toList := by decide
  change shelf.resolve (tokenOf "x.²") = _
  rw [resolve, pieces_tokenOf hpath]
  rfl

end Context

end AgentScript
