import AgentScript.Proofs.Context.Token

set_option autoImplicit false

/-! # Resolving part by part

Tokens do not overlap, so a text can be cut anywhere but inside of a token and resolved part by part
(`resolve_append`). What takes the place of a token is not looked at again: it is the text of a
value as it is, or the token itself (`resolve_compositional`). -/

namespace AgentScript.Context

/-! ## Tokens in a text -/

/-- A token with the given path stands somewhere in a text. -/
def HasToken (s path : List Char) : Prop :=
  IsPath path ∧ ∃ before rest, s = before ++ '[' :: (path ++ ']' :: rest)

/-- A token begins in one text and ends in the text after it. -/
def Straddles (s t : List Char) : Prop :=
  ∃ before left right rest, s = before ++ '[' :: left ∧ t = right ++ ']' :: rest
    ∧ IsPath (left ++ right)

theorem Straddles.of_suffix {s t : List Char} (h : Straddles s t) (u : List Char) :
    Straddles (u ++ s) t := by
  obtain ⟨before, left, right, rest, rfl, ht, hpath⟩ := h
  exact ⟨u ++ before, left, right, rest, (List.append_assoc u before _).symm, ht, hpath⟩

/-- No token goes on with a bracket that opens another one. -/
theorem not_straddles_opening (s t : List Char) : ¬ Straddles s ('[' :: t) := by
  rintro ⟨before, left, right, rest, -, ht, -, hpath⟩
  cases right with
  | nil => exact absurd (List.cons.inj ht).1 (by decide)
  | cons x right =>
      obtain ⟨rfl, -⟩ := List.cons.inj ht
      exact absurd (hpath '[' (List.mem_append_right left List.mem_cons_self)) (by decide)

/-- No token goes on after a bracket that closes one. -/
theorem not_straddles_closing (s t : List Char) : ¬ Straddles (s ++ [']']) t := by
  rintro ⟨before, left, right, rest, hs, -, -, hpath⟩
  rcases List.eq_nil_or_concat left with rfl | ⟨front, x, rfl⟩
  · exact absurd (List.append_inj' hs rfl).2 (by decide)
  · have hs : s ++ [']'] = (before ++ '[' :: front) ++ [x] := by simpa using hs
    obtain rfl : ']' = x := by simpa using (List.append_inj' hs rfl).2
    exact absurd (hpath ']' (by simp)) (by decide)

/-! ## Pieces of parts -/

theorem pieces_char {c : Char} {s : List Char}
    (h : ∀ path rest, IsPath path → c :: s ≠ '[' :: (path ++ ']' :: rest)) :
    pieces (c :: s) = .char c :: pieces s := by
  rw [pieces]
  split
  · next hc =>
      split
      · next path after hfound =>
          obtain ⟨hpath, rfl⟩ := tokenPath?_eq_some_iff.1 hfound
          exact absurd (congrArg (· :: _) hc) (h path after hpath)
      · rfl
  · rfl

/-- The pieces of a text are those of its parts, if no token lies across the cut. -/
theorem pieces_append {s t : List Char} (h : ¬ Straddles s t) :
    pieces (s ++ t) = pieces s ++ pieces t := by
  fun_induction pieces s with
  | case1 => rfl
  | case2 rest path after hfound ih =>
      obtain ⟨hpath, rfl⟩ := tokenPath?_eq_some_iff.1 hfound
      have hafter : ¬ Straddles after t := fun hafter => h (by
        simpa using hafter.of_suffix ('[' :: (path ++ [']'])))
      have htoken : '[' :: (path ++ ']' :: after) ++ t = '[' :: (path ++ ']' :: (after ++ t)) := by
        simp
      rw [htoken, pieces_token hpath, ih hafter, List.cons_append]
  | case3 rest hnone ih =>
      have hrest : ¬ Straddles rest t := fun hrest => h (hrest.of_suffix ['['])
      rw [List.cons_append, pieces_char, ih hrest, List.cons_append]
      -- a token that begins here does not end here, so it would lie across the cut
      intro path after hpath heq
      have hsplit := List.append_eq_append_iff.1 (List.cons.inj heq).2
      rcases hsplit with ⟨right, rfl, rfl⟩ | ⟨_ | ⟨x, left⟩, rfl, hleft⟩
      · exact h ⟨[], rest, right, after, rfl, rfl, hpath⟩
      · rw [List.nil_append] at hleft
        exact h ⟨[], path ++ [], [], after, rfl, hleft.symm, by simpa using hpath⟩
      · obtain ⟨rfl, -⟩ := List.cons.inj hleft
        rw [tokenPath?_eq_some_iff.2 ⟨hpath, rfl⟩] at hnone
        cases hnone
  | case4 c rest hc ih =>
      have hrest : ¬ Straddles rest t := fun hrest => h (hrest.of_suffix [c])
      rw [List.cons_append, pieces_char, ih hrest, List.cons_append]
      intro path after _ heq
      exact hc (List.cons.inj heq).1

/-- A text without tokens stands for itself. -/
theorem pieces_of_no_token {s : List Char} (h : ∀ path, ¬ HasToken s path) :
    pieces s = s.map .char := by
  -- a token of the rest would be one of the whole text
  induction s with
  | nil => rw [pieces, List.map_nil]
  | cons c s ih =>
      have hrest : ∀ path, ¬ HasToken s path := by
        rintro path ⟨hpath, before, rest, rfl⟩
        exact h path ⟨hpath, c :: before, rest, rfl⟩
      rw [pieces_char, ih hrest, List.map_cons]
      intro path rest hpath heq
      exact h path ⟨hpath, [], rest, heq⟩

/-- Every token that is found in a text stands there. -/
theorem hasToken_of_mem_pieces {s path : List Char} (h : .token path ∈ pieces s) :
    HasToken s path := by
  fun_induction pieces s with
  | case1 => cases h
  | case2 rest path' after hfound ih =>
      obtain ⟨hpath, rfl⟩ := tokenPath?_eq_some_iff.1 hfound
      rcases List.mem_cons.1 h with heq | h
      · cases heq
        exact ⟨hpath, [], after, rfl⟩
      · obtain ⟨hpath, before, rest, rfl⟩ := ih h
        exact ⟨hpath, '[' :: (path' ++ ']' :: before), rest, by simp⟩
  | case3 rest hnone ih =>
      obtain ⟨hpath, before, rest, rfl⟩ := ih (List.mem_of_ne_of_mem (by simp) h)
      exact ⟨hpath, '[' :: before, rest, rfl⟩
  | case4 c rest hc ih =>
      obtain ⟨hpath, before, rest, rfl⟩ := ih (List.mem_of_ne_of_mem (by simp) h)
      exact ⟨hpath, c :: before, rest, rfl⟩

/-- Every token that stands in a text is found there. -/
theorem mem_pieces_of_hasToken {s path : List Char} (h : HasToken s path) :
    .token path ∈ pieces s := by
  obtain ⟨hpath, before, rest, rfl⟩ := h
  rw [pieces_append (not_straddles_opening _ _), pieces_token hpath]
  exact List.mem_append_right _ List.mem_cons_self

/-! ## What pieces stand for -/

theorem resolvePieces_append (c : Context) (ps qs : List Piece) :
    c.resolvePieces (ps ++ qs) = do
      let s ← c.resolvePieces ps
      let t ← c.resolvePieces qs
      return s ++ t := by
  induction ps with
  | nil =>
      change c.resolvePieces qs = do return [] ++ (← c.resolvePieces qs)
      cases c.resolvePieces qs <;> rfl
  | cons p ps ih =>
      rw [List.cons_append, resolvePieces, resolvePieces, ih]
      cases p.resolve c with
      | error f => rfl
      | ok text =>
          cases c.resolvePieces ps with
          | error f => rfl
          | ok texts =>
              cases c.resolvePieces qs with
              | error f => rfl
              | ok more => exact congrArg Except.ok (List.append_assoc text texts more).symm

theorem resolvePieces_chars (c : Context) (s : List Char) :
    c.resolvePieces (s.map .char) = .ok s := by
  induction s with
  | nil => rfl
  | cons x s ih =>
      rw [List.map_cons, resolvePieces, ih]
      rfl

/-- Resolving depends on nothing but where the tokens of a text lead to. -/
theorem resolvePieces_congr {c d : Context} {ps : List Piece}
    (h : ∀ path, .token path ∈ ps → c.lookup (String.ofList path) = d.lookup (String.ofList path)) :
    c.resolvePieces ps = d.resolvePieces ps := by
  induction ps with
  | nil => rfl
  | cons p ps ih =>
      have hp : p.resolve c = p.resolve d := by
        cases p with
        | char x => rfl
        | token path => rw [Piece.resolve, Piece.resolve, h path List.mem_cons_self]
      have hps := ih fun path hpath => h path (List.mem_cons_of_mem p hpath)
      rw [resolvePieces, resolvePieces, hp, hps]

/-- The name that a path begins with. -/
def firstStep (path : String) : String :=
  String.ofList (path.toList.takeWhile (· != '.'))

theorem steps_eq_cons (path : String) : ∃ rest, steps path = firstStep path :: rest := by
  obtain ⟨rest, hrest⟩ := Text.splitOnChar_eq_cons '.' path.toList
  refine ⟨rest.map String.ofList, ?_⟩
  rw [steps, hrest, List.map_cons, firstStep]

theorem lookup_congr {c d : Context} {path : String}
    (h : c.get? (firstStep path) = d.get? (firstStep path)) : c.lookup path = d.lookup path := by
  obtain ⟨rest, hsteps⟩ := steps_eq_cons path
  rw [lookup, lookup, hsteps]
  simp only [h]

/-! ## Resolving texts -/

/-- Two texts are resolved one after the other, if no token lies across the cut. -/
theorem resolve_append (c : Context) {a b : String} (h : ¬ Straddles a.toList b.toList) :
    c.resolve (a ++ b) = do return (← c.resolve a) ++ (← c.resolve b) := by
  rw [resolve, resolve, resolve, String.toList_append, pieces_append h, resolvePieces_append]
  cases c.resolvePieces (pieces a.toList) with
  | error f => rfl
  | ok s =>
      cases c.resolvePieces (pieces b.toList) with
      | error f => rfl
      | ok t => exact congrArg Except.ok String.ofList_append

/-- What stands before and after a token is resolved on its own. -/
theorem resolve_around_token (c : Context) (a path b : String) :
    c.resolve (a ++ tokenOf path ++ b) = do
      return (← c.resolve a) ++ (← c.resolve (tokenOf path)) ++ (← c.resolve b) := by
  have hopening : ¬ Straddles a.toList (tokenOf path).toList := by
    rw [tokenOf_toList]
    exact not_straddles_opening _ _
  have hclosing : ¬ Straddles (a ++ tokenOf path).toList b.toList := by
    rw [String.toList_append, tokenOf_toList, ← List.cons_append, ← List.append_assoc]
    exact not_straddles_closing _ _
  rw [resolve_append c hclosing, resolve_append c hopening]
  cases c.resolve a with
  | error f => rfl
  | ok s => cases c.resolve (tokenOf path) <;> rfl

theorem resolve_of_no_token (c : Context) {text : String}
    (h : ∀ path, ¬ HasToken text.toList path) : c.resolve text = .ok text := by
  rw [resolve, pieces_of_no_token h, resolvePieces_chars]
  exact congrArg Except.ok String.ofList_toList

/-- Contexts in which the tokens of a text begin with the same values resolve it alike. -/
theorem resolve_congr {c d : Context} {text : String}
    (h : ∀ path : String, HasToken text.toList path.toList →
      c.get? (firstStep path) = d.get? (firstStep path)) : c.resolve text = d.resolve text := by
  have hpieces : c.resolvePieces (pieces text.toList) = d.resolvePieces (pieces text.toList) := by
    refine resolvePieces_congr fun path hpath => lookup_congr (h _ ?_)
    rw [String.toList_ofList]
    exact hasToken_of_mem_pieces hpath
  rw [resolve, resolve, hpieces]

/-- Resolving goes part by part and only once. Texts are resolved one after the other if no token
    lies across the cut, and a text without tokens stays as it is. A token that leads nowhere is
    kept, and the text of the value that it leads to takes its place as it is, whatever stands
    around it. Nothing but the values that the tokens begin with matters to the result. -/
theorem resolve_compositional (c : Context) :
    (∀ a b : String, ¬ Straddles a.toList b.toList →
        c.resolve (a ++ b) = do return (← c.resolve a) ++ (← c.resolve b))
      ∧ (∀ text : String, (∀ path, ¬ HasToken text.toList path) → c.resolve text = .ok text)
      ∧ (∀ a path b : String, IsPath path.toList → c.lookup path = .ok none →
        c.resolve (a ++ tokenOf path ++ b)
          = do return (← c.resolve a) ++ tokenOf path ++ (← c.resolve b))
      ∧ (∀ (a path b : String) (v : Value), IsPath path.toList → c.lookup path = .ok (some v) →
        c.resolve (a ++ tokenOf path ++ b)
          = do return (← c.resolve a) ++ (← v.toText) ++ (← c.resolve b))
      ∧ ∀ (d : Context) (text : String), (∀ path : String, HasToken text.toList path.toList →
        c.get? (firstStep path) = d.get? (firstStep path)) → c.resolve text = d.resolve text := by
  refine ⟨fun a b h => resolve_append c h, fun text h => resolve_of_no_token c h,
    fun a path b hpath hnone => ?_, fun a path b v hpath hv => ?_, fun d text h => resolve_congr h⟩
  · rw [resolve_around_token, resolve_tokenOf_none hpath hnone]
    rfl
  · rw [resolve_around_token, resolve_tokenOf_some hpath hv]

/-- A context in which the value of one name reads like the token of another one. -/
def echoing : Context :=
  initial (.str "[answer]") (.str "done") [("order", .dict [(.str "id", .int 7)])]

theorem resolve_compositional_echoing :
    (¬ Straddles "[".toList "[prompt]".toList
        ∧ echoing.resolve ("[" ++ "[prompt]")
          = do return (← echoing.resolve "[") ++ (← echoing.resolve "[prompt]"))
      ∧ ((∀ path, ¬ HasToken "prompt]".toList path) ∧ echoing.resolve "prompt]" = .ok "prompt]")
      ∧ (IsPath "order.due".toList ∧ echoing.lookup "order.due" = .ok none
        ∧ echoing.resolve ("[order" ++ tokenOf "order.due" ++ "]")
          = do return (← echoing.resolve "[order") ++ tokenOf "order.due"
            ++ (← echoing.resolve "]"))
      ∧ (IsPath "prompt".toList ∧ echoing.lookup "prompt" = .ok (some (.str "[answer]"))
        ∧ echoing.resolve ("[" ++ tokenOf "prompt" ++ "]")
          = do return (← echoing.resolve "[") ++ (← (Value.str "[answer]").toText)
            ++ (← echoing.resolve "]"))
      ∧ ((∀ path : String, HasToken "[prompt] [order.id]".toList path.toList →
          echoing.get? (firstStep path) = (echoing.put "my order" .null).get? (firstStep path))
        ∧ echoing.resolve "[prompt] [order.id]"
          = (echoing.put "my order" .null).resolve "[prompt] [order.id]") := by
  obtain ⟨happend, hplain, hkept, hreplaced, hcongr⟩ := resolve_compositional echoing
  have hcut : ¬ Straddles "[".toList "[prompt]".toList := not_straddles_opening _ _
  have hclosed : ∀ path, ¬ HasToken "prompt]".toList path := by
    rintro path ⟨-, before, rest, heq⟩
    have hmem : '[' ∈ "prompt]".toList := heq ▸ List.mem_append_right before List.mem_cons_self
    exact absurd hmem (by decide)
  have hwords : ∀ path : String, HasToken "[prompt] [order.id]".toList path.toList →
      echoing.get? (firstStep path) = (echoing.put "my order" .null).get? (firstStep path) := by
    rintro path ⟨⟨-, hpath⟩, -⟩
    refine (Bindings.get?_put_of_ne _ (fun hname => ?_) _).symm
    have hfirst : path.toList.takeWhile (· != '.') = "my order".toList := by
      rw [← hname, firstStep, String.toList_ofList]
    have hblank : ' ' ∈ path.toList.takeWhile (· != '.') := by
      rw [hfirst]
      decide
    exact absurd (hpath ' ' ((List.takeWhile_prefix _).subset hblank)) (by decide)
  have hdue : echoing.lookup "order.due" = .ok none := rfl
  have hprompt : echoing.lookup "prompt" = .ok (some (.str "[answer]")) := rfl
  exact ⟨⟨hcut, happend "[" "[prompt]" hcut⟩, ⟨hclosed, hplain "prompt]" hclosed⟩,
    ⟨by decide, hdue, hkept "[order" "order.due" "]" (by decide) hdue⟩,
    ⟨by decide, hprompt, hreplaced "[" "prompt" "]" _ (by decide) hprompt⟩,
    ⟨hwords, hcongr _ "[prompt] [order.id]" hwords⟩⟩

end AgentScript.Context
