import AgentScript.Proofs.Script.Naming
import AgentScript.Proofs.Script.Printing
import AgentScript.Proofs.Text.Spelling

set_option autoImplicit false

/-! # The grammar of lines

A line is a statement if one of six alternatives derives it. Each alternative is a sequence of
terminals, and in general a line can be divided among them in several ways: blanks after a phrase
belong to it or to what follows. All the same a line has derivations from one alternative only
(`Derives.alternative_unique`). A line is read along the derivation in which phrases take all the
blanks after them; if the line has no blanks at its ends, that loses no statement
(`Statement.ofLine_exact`). -/

namespace AgentScript.Script

open Text
open Context (IsReadable)

/-! ## Derivations -/

/-- The alternatives of the grammar. -/
inductive Alternative where
  | overrideStart
  | agentCall
  | commandCall
  | getOutput
  | setId
  | expand
deriving DecidableEq

/-- The alternative that a statement comes from. -/
def Statement.alternative : Statement → Alternative
  | .overrideStart => .overrideStart
  | .agentCall _ => .agentCall
  | .commandCall _ => .commandCall
  | .getOutput _ => .getOutput
  | .setId _ => .setId
  | .expand => .expand

/-- The parenthesis that opens the arguments of a call, with any blanks before it. -/
def IsOpening (s : List Char) : Prop :=
  ∃ gap, (∀ c ∈ gap, isBlank c) ∧ s = gap ++ ['(']

/-- The name that a text gives at its front: what stands there between quotes, if that is
    something. -/
def GivesName (s : List Char) : Option String → Prop
  | some name => name ≠ "" ∧ '"' ∉ name.toList ∧ ∃ rest, s = '"' :: (name.toList ++ '"' :: rest)
  | none => ∀ name : String, name ≠ "" → '"' ∉ name.toList →
      ∀ rest, s ≠ '"' :: (name.toList ++ '"' :: rest)

/-- The derivations of a line and the statements that they make of it. A phrase that is followed by
    something takes one or more of the blanks after it; `Follows` says what it may leave. A name has
    a blank or the parenthesis after it, so it is a whole run of word characters. -/
inductive Derives (Follows : List Char → Prop) : List Char → Statement → Prop where
  | overrideStart {phrase : List Char} (rest : List Char)
      (hphrase : BlockName.overridePrompt.opening.IsSpelledBy phrase) :
      Derives Follows (phrase ++ rest) .overrideStart
  | agentCall {phrase gap opening : List Char} {agent : String} (rest : List Char)
      (hphrase : agentPhrase.IsSpelledBy phrase) (hgap : AreBlanks gap) (hagent : IsReadable agent)
      (hopening : IsOpening opening) (hfollows : Follows (agent.toList ++ (opening ++ rest))) :
      Derives Follows (phrase ++ (gap ++ (agent.toList ++ (opening ++ rest)))) (.agentCall agent)
  | commandCall {opening : List Char} {name : String} (rest : List Char)
      (hname : IsReadable name) (hopening : IsOpening opening) :
      Derives Follows (name.toList ++ (opening ++ rest)) (.commandCall name)
  | getOutput {phrase gap rest : List Char} {name? : Option String}
      (hphrase : outputPhrase.IsSpelledBy phrase) (hgap : AreBlanks gap) (hrest : rest ≠ [])
      (hfollows : Follows rest) (hname : GivesName rest name?) :
      Derives Follows (phrase ++ (gap ++ rest)) (.getOutput name?)
  | setId {phrase gap rest : List Char} {agent? : Option String}
      (hphrase : identityPhrase.IsSpelledBy phrase) (hgap : AreBlanks gap) (hrest : rest ≠ [])
      (hfollows : Follows rest) (hagent : GivesName rest agent?) :
      Derives Follows (phrase ++ (gap ++ rest)) (.setId agent?)
  | expand {phrase : List Char} (rest : List Char) (hphrase : expandPhrase.IsSpelledBy phrase) :
      Derives Follows (phrase ++ rest) .expand

/-- The derivations of a line in every way of dividing it. -/
abbrev DerivesAnyhow : List Char → Statement → Prop :=
  Derives fun _ => True

/-- The derivations of a line in which phrases take all the blanks after them. -/
abbrev DerivesLongest : List Char → Statement → Prop :=
  Derives StartsBare

variable {Follows : List Char → Prop} {line : List Char} {s t : Statement}

theorem Derives.anyhow (h : Derives Follows line s) : DerivesAnyhow line s := by
  cases h with
  | overrideStart rest hphrase => exact .overrideStart rest hphrase
  | agentCall rest hphrase hgap hagent hopening =>
      exact .agentCall rest hphrase hgap hagent hopening trivial
  | commandCall rest hname hopening => exact .commandCall rest hname hopening
  | getOutput hphrase hgap hrest _ hname => exact .getOutput hphrase hgap hrest trivial hname
  | setId hphrase hgap hrest _ hagent => exact .setId hphrase hgap hrest trivial hagent
  | expand rest hphrase => exact .expand rest hphrase

/-! ## One alternative for a line -/

/-- The phrase that an alternative begins with. -/
def Alternative.phrase? : Alternative → Option Phrase
  | .overrideStart => some BlockName.overridePrompt.opening
  | .agentCall => some agentPhrase
  | .commandCall => none
  | .getOutput => some outputPhrase
  | .setId => some identityPhrase
  | .expand => some expandPhrase

theorem Alternative.phrase?_plain {a : Alternative} {p : Phrase} (h : a.phrase? = some p) :
    p.IsPlain ∧ p.IsLettered := by
  cases a <;> cases h <;> exact ⟨⟨by decide, by decide⟩, by decide⟩

/-- Alternatives that begin with the same word are the same. -/
theorem Alternative.eq_of_first {a b : Alternative} {p q : Phrase} (ha : a.phrase? = some p)
    (hb : b.phrase? = some q) (h : p.first.toList = q.first.toList) : a = b := by
  cases a <;> cases ha <;> cases b <;> cases hb <;> first | rfl | exact absurd h (by decide)

/-- A derivation begins with the phrase of its alternative, or else with a name. -/
theorem Derives.begins (h : Derives Follows line s) :
    match s.alternative.phrase? with
    | some p => ∃ phrase rest, p.IsSpelledBy phrase ∧ line = phrase ++ rest
    | none => ∃ name opening rest, IsReadable name ∧ IsOpening opening
        ∧ line = name.toList ++ (opening ++ rest) := by
  cases h with
  | overrideStart rest hphrase | expand rest hphrase => exact ⟨_, _, hphrase, rfl⟩
  | agentCall rest hphrase => exact ⟨_, _, hphrase, rfl⟩
  | getOutput hphrase | setId hphrase => exact ⟨_, _, hphrase, rfl⟩
  | commandCall rest hname hopening => exact ⟨_, _, _, hname, hopening, rfl⟩

theorem IsOpening.head_not_word {opening : List Char} (h : IsOpening opening) (rest : List Char) :
    ∀ c ∈ (opening ++ rest).head?, isWordChar c = false := by
  obtain ⟨gap, hgap, rfl⟩ := h
  intro c hc
  cases gap with
  | nil =>
      cases hc
      decide
  | cons d gap =>
      cases hc
      exact isWordChar_of_isBlank (hgap _ List.mem_cons_self)

theorem IsOpening.dropWhile_isBlank {opening : List Char} (h : IsOpening opening)
    (rest : List Char) : (opening ++ rest).dropWhile isBlank = '(' :: rest := by
  obtain ⟨gap, hgap, rfl⟩ := h
  have hparen : ∀ c ∈ ('(' :: rest).head?, isBlank c = false := by
    rintro c ⟨⟩
    decide
  rw [List.append_assoc, List.singleton_append, dropWhile_run hgap hparen]

/-- No phrase has a parenthesis after its first word. -/
theorem Phrase.not_call {p : Phrase} (hp : p.IsPlain) (hletters : p.IsLettered)
    {phrase opening : List Char} {name : String} (hphrase : p.IsSpelledBy phrase)
    (hname : IsReadable name) (hopening : IsOpening opening) {rest rest' : List Char} :
    phrase ++ rest ≠ name.toList ++ (opening ++ rest') := by
  intro h
  obtain ⟨-, second, hsecond, hdrop⟩ := hphrase.first_word hp hletters rest
  rw [h, dropWhile_run hname.2 (hopening.head_not_word rest'), hopening.dropWhile_isBlank] at hdrop
  cases second with
  | nil => exact isKeyword_ne_nil hp.second (Eq.symm hsecond)
  | cons c second =>
      obtain ⟨rfl, -⟩ := List.cons_eq_cons.1 hdrop
      have hletter := hletters.2 (foldLetter '(') (hsecond ▸ List.mem_cons_self)
      exact absurd hletter (by decide)

/-- All derivations of a line, however it is divided, come from one alternative. -/
theorem Derives.alternative_unique {Follows' : List Char → Prop} (hs : Derives Follows line s)
    (ht : Derives Follows' line t) : s.alternative = t.alternative := by
  have hs := hs.begins
  have ht := ht.begins
  cases ha : s.alternative.phrase? with
  | some p =>
      obtain ⟨hp, hletters⟩ := Alternative.phrase?_plain ha
      rw [ha] at hs
      obtain ⟨phrase, rest, hphrase, rfl⟩ := hs
      cases hb : t.alternative.phrase? with
      | some q =>
          obtain ⟨hq, hletters'⟩ := Alternative.phrase?_plain hb
          rw [hb] at ht
          obtain ⟨phrase', rest', hphrase', heq⟩ := ht
          -- both phrases have the first word of the line for their first keyword
          have hfirst := (hphrase.first_word hp hletters rest).1
          rw [heq] at hfirst
          exact Alternative.eq_of_first ha hb
            (hfirst.symm.trans (hphrase'.first_word hq hletters' rest').1)
      | none =>
          rw [hb] at ht
          obtain ⟨name, opening, rest', hname, hopening, heq⟩ := ht
          exact absurd heq (Phrase.not_call hp hletters hphrase hname hopening)
  | none =>
      rw [ha] at hs
      obtain ⟨name, opening, rest, hname, hopening, rfl⟩ := hs
      cases hb : t.alternative.phrase? with
      | some q =>
          obtain ⟨hq, hletters⟩ := Alternative.phrase?_plain hb
          rw [hb] at ht
          obtain ⟨phrase, rest', hphrase, heq⟩ := ht
          exact absurd heq.symm (Phrase.not_call hq hletters hphrase hname hopening)
      | none =>
          have hcall {a : Alternative} (h : a.phrase? = none) : a = .commandCall := by
            cases a <;> first | rfl | cases h
          rw [hcall ha, hcall hb]

/-! ## Reading along the longest derivation -/

theorem matchCall_eq_some_iff {s rest : List Char} :
    matchCall s = some rest ↔ ∃ opening, IsOpening opening ∧ opening ++ rest = s := by
  constructor
  · intro h
    unfold matchCall at h
    split at h
    · next inner hdrop =>
        cases h
        refine ⟨s.takeWhile isBlank ++ ['('], ⟨_, fun c => List.mem_takeWhile_imp, rfl⟩, ?_⟩
        rw [List.append_assoc, List.singleton_append, ← hdrop, List.takeWhile_append_dropWhile]
    · cases h
  · rintro ⟨opening, hopening, rfl⟩
    rw [matchCall, hopening.dropWhile_isBlank]
    rfl

theorem readName_eq_some_iff {s rest : List Char} {name : String} :
    readName s = some (name, rest) ↔ IsReadable name ∧ name.toList ++ rest = s
      ∧ ∀ c ∈ rest.head?, isWordChar c = false := by
  constructor
  · intro h
    unfold readName at h
    split at h
    · cases h
    · next hne =>
        cases h
        refine ⟨⟨fun hempty => hne ?_, fun c hc => ?_⟩, ?_, fun c => of_mem_head?_dropWhile⟩
        · simpa using congrArg String.toList hempty
        · rw [String.toList_ofList] at hc
          exact List.mem_takeWhile_imp hc
        · rw [String.toList_ofList, List.takeWhile_append_dropWhile]
  · rintro ⟨⟨hne, hword⟩, rfl, hrest⟩
    rw [readName, takeWhile_run hword hrest, dropWhile_run hword hrest]
    cases hname : name.toList with
    | nil => exact absurd (String.toList_eq_nil_iff.1 hname) hne
    | cons c word =>
        change some (String.ofList (c :: word), rest) = _
        rw [← hname, String.ofList_toList]

theorem readCall_eq_some_iff {s : List Char} {name : String} :
    readCall s = some name ↔ ∃ opening rest, IsReadable name ∧ IsOpening opening
      ∧ name.toList ++ (opening ++ rest) = s := by
  constructor
  · intro h
    obtain ⟨⟨word, afterName⟩, hread, h⟩ := Option.bind_eq_some_iff.1 h
    obtain ⟨rest, hcall, h⟩ := Option.bind_eq_some_iff.1 h
    obtain rfl : word = name := Option.some.inj h
    obtain ⟨hname, rfl, -⟩ := readName_eq_some_iff.1 hread
    obtain ⟨opening, hopening, rfl⟩ := matchCall_eq_some_iff.1 hcall
    exact ⟨opening, rest, hname, hopening, rfl⟩
  · rintro ⟨opening, rest, hname, hopening, rfl⟩
    rw [readCall, readName_eq_some_iff.2 ⟨hname, rfl, hopening.head_not_word rest⟩]
    change (matchCall (opening ++ rest)).bind _ = _
    rw [matchCall_eq_some_iff.2 ⟨opening, hopening, rfl⟩]
    rfl

theorem afterPhrase_eq_some_iff {p : Phrase} (hp : p.IsPlain) {s rest : List Char} :
    afterPhrase p s = some rest ↔ ∃ phrase gap, p.IsSpelledBy phrase ∧ AreBlanks gap
      ∧ StartsBare rest ∧ phrase ++ (gap ++ rest) = s := by
  constructor
  · intro h
    obtain ⟨afterWords, hreadPhrase, hreadGap⟩ := Option.bind_eq_some_iff.1 h
    obtain ⟨phrase, hphrase, rfl⟩ := (Phrase.match?_eq_some_iff hp).1 hreadPhrase
    obtain ⟨gap, hgap, rfl, hrest⟩ := matchBlanks_eq_some_iff.1 hreadGap
    exact ⟨phrase, gap, hphrase, hgap, hrest, rfl⟩
  · rintro ⟨phrase, gap, hphrase, hgap, hrest, rfl⟩
    rw [afterPhrase, (Phrase.match?_eq_some_iff hp).2 ⟨phrase, hphrase, rfl⟩, Option.bind_some]
    exact matchBlanks_eq_some_iff.2 ⟨gap, hgap, rfl, hrest⟩

theorem leadingQuoted_eq_some_iff {s : List Char} {name : String} :
    leadingQuoted s = some name ↔ GivesName s (some name) := by
  constructor
  · intro h
    unfold leadingQuoted at h
    split at h
    · next body =>
        split at h
        · next c word rest hname hafter =>
            cases h
            refine ⟨by simp, ?_, rest, ?_⟩
            · rw [String.toList_ofList, ← hname]
              exact fun hquote => absurd (List.mem_takeWhile_imp hquote) (by decide)
            · rw [String.toList_ofList, ← hname, ← hafter, List.takeWhile_append_dropWhile]
        · cases h
    · cases h
  · rintro ⟨hne, hquote, rest, rfl⟩
    have hrun : ∀ c ∈ name.toList, (c != '"') = true := fun c hc =>
      bne_iff_ne.2 fun heq => hquote (heq ▸ hc)
    have hstop : ∀ c ∈ ('"' :: rest).head?, (c != '"') = false := by
      rintro c ⟨⟩
      rfl
    rw [leadingQuoted, takeWhile_run hrun hstop, dropWhile_run hrun hstop]
    cases hname : name.toList with
    | nil => exact absurd (String.toList_eq_nil_iff.1 hname) hne
    | cons c word =>
        change some (String.ofList (c :: word)) = _
        rw [← hname, String.ofList_toList]

theorem leadingQuoted_eq_iff {s : List Char} {name? : Option String} :
    leadingQuoted s = name? ↔ GivesName s name? := by
  cases name? with
  | some name => exact leadingQuoted_eq_some_iff
  | none =>
      rw [Option.eq_none_iff_forall_ne_some]
      constructor
      · intro h name hne hquote rest hs
        exact h name (leadingQuoted_eq_some_iff.2 ⟨hne, hquote, rest, hs⟩)
      · intro h name hname
        obtain ⟨hne, hquote, rest, hs⟩ := leadingQuoted_eq_some_iff.1 hname
        exact h name hne hquote rest hs

theorem argumentOf_eq_some_iff {p : Phrase} (hp : p.IsPlain) {s : List Char}
    {name? : Option String} :
    (argumentOf p s).map leadingQuoted = some name? ↔ ∃ phrase gap rest, p.IsSpelledBy phrase
      ∧ AreBlanks gap ∧ rest ≠ [] ∧ StartsBare rest ∧ GivesName rest name?
      ∧ phrase ++ (gap ++ rest) = s := by
  constructor
  · intro h
    obtain ⟨rest, hargument, hname⟩ := Option.map_eq_some_iff.1 h
    obtain ⟨hafter, hne⟩ := Option.filter_eq_some_iff.1 hargument
    obtain ⟨phrase, gap, hphrase, hgap, hrest, rfl⟩ := (afterPhrase_eq_some_iff hp).1 hafter
    exact ⟨phrase, gap, rest, hphrase, hgap, by simpa using hne, hrest,
      leadingQuoted_eq_iff.1 hname, rfl⟩
  · rintro ⟨phrase, gap, rest, hphrase, hgap, hne, hrest, hname, rfl⟩
    have hafter := (afterPhrase_eq_some_iff hp).2 ⟨phrase, gap, hphrase, hgap, hrest, rfl⟩
    rw [argumentOf, hafter, Option.filter_some, if_pos (by simpa using hne), Option.map_some,
      leadingQuoted_eq_iff.2 hname]

theorem agentCall_eq_some_iff {s : List Char} {agent : String} :
    (afterPhrase agentPhrase s).bind readCall = some agent ↔ ∃ phrase gap opening rest,
      agentPhrase.IsSpelledBy phrase ∧ AreBlanks gap ∧ IsReadable agent ∧ IsOpening opening
      ∧ StartsBare (agent.toList ++ (opening ++ rest))
      ∧ phrase ++ (gap ++ (agent.toList ++ (opening ++ rest))) = s := by
  have hp : agentPhrase.IsPlain := ⟨by decide, by decide⟩
  constructor
  · intro h
    obtain ⟨call, hafter, hcall⟩ := Option.bind_eq_some_iff.1 h
    obtain ⟨phrase, gap, hphrase, hgap, hbare, rfl⟩ := (afterPhrase_eq_some_iff hp).1 hafter
    obtain ⟨opening, rest, hagent, hopening, rfl⟩ := readCall_eq_some_iff.1 hcall
    exact ⟨phrase, gap, opening, rest, hphrase, hgap, hagent, hopening, hbare, rfl⟩
  · rintro ⟨phrase, gap, opening, rest, hphrase, hgap, hagent, hopening, hbare, rfl⟩
    rw [(afterPhrase_eq_some_iff hp).2 ⟨phrase, gap, hphrase, hgap, hbare, rfl⟩, Option.bind_some]
    exact readCall_eq_some_iff.2 ⟨opening, rest, hagent, hopening, rfl⟩

/-- What the front of a line is read as is what its longest derivation says, alternative by
    alternative. -/
theorem derivesLongest_iff :
    DerivesLongest line s ↔
      match s with
      | .overrideStart => (BlockName.overridePrompt.opening.match? line).isSome
      | .agentCall agent => (afterPhrase agentPhrase line).bind readCall = some agent
      | .commandCall name => readCall line = some name
      | .getOutput name? => (argumentOf outputPhrase line).map leadingQuoted = some name?
      | .setId agent? => (argumentOf identityPhrase line).map leadingQuoted = some agent?
      | .expand => (expandPhrase.match? line).isSome := by
  have hopening := isPlain_opening .overridePrompt
  have houtput : outputPhrase.IsPlain := ⟨by decide, by decide⟩
  have hidentity : identityPhrase.IsPlain := ⟨by decide, by decide⟩
  have hexpand : expandPhrase.IsPlain := ⟨by decide, by decide⟩
  constructor
  · intro h
    cases h with
    | overrideStart rest hphrase =>
        exact Option.isSome_of_eq_some ((Phrase.match?_eq_some_iff hopening).2 ⟨_, hphrase, rfl⟩)
    | agentCall rest hphrase hgap hagent hopening hbare =>
        exact agentCall_eq_some_iff.2 ⟨_, _, _, rest, hphrase, hgap, hagent, hopening, hbare, rfl⟩
    | commandCall rest hname hopening =>
        exact readCall_eq_some_iff.2 ⟨_, rest, hname, hopening, rfl⟩
    | getOutput hphrase hgap hrest hbare hname =>
        exact (argumentOf_eq_some_iff houtput).2 ⟨_, _, _, hphrase, hgap, hrest, hbare, hname, rfl⟩
    | setId hphrase hgap hrest hbare hagent =>
        exact (argumentOf_eq_some_iff hidentity).2
          ⟨_, _, _, hphrase, hgap, hrest, hbare, hagent, rfl⟩
    | expand rest hphrase =>
        exact Option.isSome_of_eq_some ((Phrase.match?_eq_some_iff hexpand).2 ⟨_, hphrase, rfl⟩)
  · intro h
    cases s with
    | overrideStart =>
        obtain ⟨rest, hrest⟩ := Option.isSome_iff_exists.1 h
        obtain ⟨phrase, hphrase, rfl⟩ := (Phrase.match?_eq_some_iff hopening).1 hrest
        exact .overrideStart rest hphrase
    | agentCall agent =>
        obtain ⟨phrase, gap, opening, rest, hphrase, hgap, hagent, hopening, hbare, rfl⟩ :=
          agentCall_eq_some_iff.1 h
        exact .agentCall rest hphrase hgap hagent hopening hbare
    | commandCall name =>
        obtain ⟨opening, rest, hname, hopening, rfl⟩ := readCall_eq_some_iff.1 h
        exact .commandCall rest hname hopening
    | getOutput name? =>
        obtain ⟨phrase, gap, rest, hphrase, hgap, hne, hbare, hname, rfl⟩ :=
          (argumentOf_eq_some_iff houtput).1 h
        exact .getOutput hphrase hgap hne hbare hname
    | setId agent? =>
        obtain ⟨phrase, gap, rest, hphrase, hgap, hne, hbare, hagent, rfl⟩ :=
          (argumentOf_eq_some_iff hidentity).1 h
        exact .setId hphrase hgap hne hbare hagent
    | expand =>
        obtain ⟨rest, hrest⟩ := Option.isSome_iff_exists.1 h
        obtain ⟨phrase, hphrase, rfl⟩ := (Phrase.match?_eq_some_iff hexpand).1 hrest
        exact .expand rest hphrase

/-- A line has one longest derivation at most. -/
theorem derivesLongest_unique (hs : DerivesLongest line s) (ht : DerivesLongest line t) :
    s = t := by
  have halternative := hs.alternative_unique ht
  rw [derivesLongest_iff] at hs ht
  cases s <;> cases t <;> cases halternative
  case overrideStart | expand => rfl
  all_goals exact congrArg _ (Option.some.inj (hs.symm.trans ht))

theorem derivesLongest_of_ofLine {line : String} (h : Statement.ofLine line = some s) :
    DerivesLongest line.toList s := by
  rw [derivesLongest_iff]
  unfold Statement.ofLine at h
  dsimp only at h
  split at h
  · cases h
    assumption
  split at h
  · cases h
    assumption
  split at h
  · cases h
    assumption
  split at h
  · cases h
    assumption
  split at h
  · next rest hrest =>
      cases h
      exact hrest ▸ rfl
  · obtain ⟨rest, hrest, rfl⟩ := Option.map_eq_some_iff.1 h
    exact hrest ▸ rfl

theorem isSome_ofLine {line : String} (h : DerivesLongest line.toList s) :
    (Statement.ofLine line).isSome := by
  rw [derivesLongest_iff] at h
  unfold Statement.ofLine
  dsimp only
  split
  · rfl
  next hoverride =>
  split
  · rfl
  next hexpand =>
  split
  · rfl
  next hagent =>
  split
  · rfl
  next hname =>
  split
  · rfl
  next houtput =>
  cases s with
  | overrideStart => exact absurd h hoverride
  | agentCall agent =>
      rw [hagent] at h
      cases h
  | commandCall name =>
      rw [hname] at h
      cases h
  | getOutput name? =>
      rw [houtput] at h
      cases h
  | setId agent? =>
      rw [Option.isSome_map]
      obtain ⟨rest, hrest, -⟩ := Option.map_eq_some_iff.1 h
      exact Option.isSome_of_eq_some hrest
  | expand => exact absurd h hexpand

/-- The statement that a line begins is what its longest derivation says. -/
theorem ofLine_eq_some_iff {line : String} :
    Statement.ofLine line = some s ↔ DerivesLongest line.toList s := by
  refine ⟨derivesLongest_of_ofLine, fun h => ?_⟩
  obtain ⟨t, ht⟩ := Option.isSome_iff_exists.1 (isSome_ofLine h)
  rw [ht, derivesLongest_unique (derivesLongest_of_ofLine ht) h]

/-! ## Lines without blanks at their ends -/

/-- Where a line does not end in a blank, a phrase can take all the blanks after it and leave
    something. -/
theorem exists_longest_gap {phrase gap rest : List Char}
    (htrim : stripChars (phrase ++ (gap ++ rest)) = phrase ++ (gap ++ rest))
    (hgap : AreBlanks gap) (hrest : rest ≠ []) :
    ∃ gap' rest', AreBlanks gap' ∧ rest' ≠ [] ∧ StartsBare rest' ∧ gap' ++ rest' = gap ++ rest := by
  refine ⟨gap ++ rest.takeWhile isBlank, rest.dropWhile isBlank, ⟨?_, ?_⟩, ?_,
    fun c => of_mem_head?_dropWhile, ?_⟩
  · simp [hgap.1]
  · intro c hc
    rcases List.mem_append.1 hc with hc | hc
    · exact hgap.2 c hc
    · exact List.mem_takeWhile_imp hc
  · intro hnil
    -- the last character of the line is not a blank
    have hlast : phrase ++ (gap ++ rest)
        = (phrase ++ (gap ++ rest.dropLast)) ++ [rest.getLast hrest] := by
      rw [List.append_assoc, List.append_assoc, List.dropLast_append_getLast]
    have hblank := List.dropWhile_eq_nil_iff.1 hnil _ (List.getLast_mem hrest)
    rw [not_isBlank_of_stripChars (htrim.trans hlast)] at hblank
    cases hblank
  · rw [List.append_assoc, List.takeWhile_append_dropWhile]

theorem Derives.exists_longest (h : DerivesAnyhow line s) (htrim : stripChars line = line) :
    ∃ t, DerivesLongest line t := by
  cases h with
  | overrideStart rest hphrase => exact ⟨_, .overrideStart rest hphrase⟩
  | agentCall rest hphrase hgap hagent hopening =>
      refine ⟨_, .agentCall rest hphrase hgap hagent hopening fun c hc => ?_⟩
      rw [List.head?_append_of_ne_nil _ (mt String.toList_eq_nil_iff.1 hagent.1)] at hc
      exact isBlank_of_isWordChar (hagent.2 c (List.mem_of_mem_head? hc))
  | commandCall rest hname hopening => exact ⟨_, .commandCall rest hname hopening⟩
  | getOutput hphrase hgap hrest =>
      obtain ⟨gap', rest', hgap', hne, hbare, hsame⟩ := exists_longest_gap htrim hgap hrest
      rw [← hsame]
      exact ⟨_, .getOutput hphrase hgap' hne hbare (leadingQuoted_eq_iff.1 rfl)⟩
  | setId hphrase hgap hrest =>
      obtain ⟨gap', rest', hgap', hne, hbare, hsame⟩ := exists_longest_gap htrim hgap hrest
      rw [← hsame]
      exact ⟨_, .setId hphrase hgap' hne hbare (leadingQuoted_eq_iff.1 rfl)⟩
  | expand rest hphrase => exact ⟨_, .expand rest hphrase⟩

/-- A line without blanks at its ends is a statement just when some alternative derives it, in
    whatever way the line is divided. No two alternatives derive it, and the statement is the one
    that its longest derivation says. -/
theorem Statement.ofLine_exact {line : String} (htrim : Text.strip line = line) :
    (∀ s t, DerivesAnyhow line.toList s → DerivesAnyhow line.toList t →
        s.alternative = t.alternative)
      ∧ ((Statement.ofLine line).isSome ↔ ∃ s, DerivesAnyhow line.toList s)
      ∧ ∀ s, Statement.ofLine line = some s ↔ DerivesLongest line.toList s := by
  refine ⟨fun s t hs ht => hs.alternative_unique ht, ⟨fun h => ?_, ?_⟩, fun s => ofLine_eq_some_iff⟩
  · obtain ⟨s, hs⟩ := Option.isSome_iff_exists.1 h
    exact ⟨s, (ofLine_eq_some_iff.1 hs).anyhow⟩
  · rintro ⟨s, hs⟩
    have hchars : stripChars line.toList = line.toList := by
      rw [← String.toList_ofList (l := stripChars line.toList)]
      exact congrArg String.toList htrim
    obtain ⟨t, ht⟩ := hs.exists_longest hchars
    exact isSome_ofLine ht

/-- A line with two blanks that can be divided between a phrase and what follows it, and with a
    parenthesis that opens no call. -/
def spacedLine : String :=
  "SETID\tas  \"critic\" (of all)"

theorem Statement.ofLine_exact_spaced :
    Text.strip spacedLine = spacedLine
      ∧ (∀ s t, DerivesAnyhow spacedLine.toList s → DerivesAnyhow spacedLine.toList t →
          s.alternative = t.alternative)
      ∧ ((Statement.ofLine spacedLine).isSome ↔ ∃ s, DerivesAnyhow spacedLine.toList s)
      ∧ ∀ s, Statement.ofLine spacedLine = some s ↔ DerivesLongest spacedLine.toList s := by
  have htrim : Text.strip spacedLine = spacedLine := by decide +kernel
  exact ⟨htrim, Statement.ofLine_exact htrim⟩

end AgentScript.Script
