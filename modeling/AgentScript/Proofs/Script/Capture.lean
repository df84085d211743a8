import AgentScript.Proofs.Script.Composition
import AgentScript.Proofs.Script.Grammar
import AgentScript.Proofs.Text.Blank

set_option autoImplicit false

/-! # What a call takes in

A call takes the lines from its own up to the first one by whose end as many parentheses are closed
as opened, and all lines if there is no such line (`EndsCall`). Its arguments are what the text of
these lines has between its first opening parenthesis, which is the one of the call, and its last
closing one (`captureAt_divides`). -/

namespace AgentScript.Script

open Text

/-! ## The lines of a call -/

/-- Some lines close at least as many parentheses as they open. -/
def AreBalanced (lines : List String) : Prop :=
  openedIn lines ≤ closedIn lines

/-- The lines from number `start` up to the one before number `next`. -/
def linesBetween (lines : List String) (start next : Int) : List String :=
  (linesFrom lines start).take (next - start).toNat

/-- The call that begins on line `start` ends before line `next`: with the first line by whose end
    all parentheses are closed, or with the last line if there is none. -/
structure EndsCall (lines : List String) (start next : Int) : Prop where
  start_lt : start < next
  le_length : next ≤ lines.length
  open_before : ∀ k, start < k → k < next → ¬ AreBalanced (linesBetween lines start k)
  balanced : AreBalanced (linesBetween lines start next) ∨ next = lines.length

/-- Further lines are taken as long as more parentheses are open than closed, and no longer. -/
theorem furtherLines_spec (opened closed : Nat) (rest : List String) :
    (∀ k < furtherLines opened closed rest,
        closed + closedIn (rest.take k) < opened + openedIn (rest.take k))
      ∧ (opened + openedIn (rest.take (furtherLines opened closed rest))
            ≤ closed + closedIn (rest.take (furtherLines opened closed rest))
          ∨ furtherLines opened closed rest = rest.length) := by
  induction rest generalizing opened closed with
  | nil => exact ⟨fun k hk => absurd hk (Nat.not_lt_zero k), .inr rfl⟩
  | cons line rest ih =>
      rw [furtherLines]
      split
      · next hlt =>
          obtain ⟨hopen, hends⟩ :=
            ih (opened + (parentheses line).1) (closed + (parentheses line).2)
          constructor
          · intro k hk
            cases k with
            | zero => simpa [openedIn, closedIn] using hlt
            | succ k =>
                have hk := hopen k (by omega)
                rw [List.take_succ_cons, openedIn, closedIn]
                omega
          · rw [Nat.add_comm 1, List.take_succ_cons, openedIn, closedIn, List.length_cons]
            omega
      · next hle =>
          exact ⟨fun k hk => absurd hk (Nat.not_lt_zero k),
            .inl (by simpa [openedIn, closedIn] using hle)⟩

theorem length_linesFrom {lines : List String} {start : Int} (h : linesFrom lines start ≠ []) :
    start + (linesFrom lines start).length = lines.length := by
  unfold linesFrom at h ⊢
  split at h
  · have hlt := List.drop_eq_nil_iff.not.1 h
    rw [if_pos ‹_›, List.length_drop]
    omega
  split at h
  · rw [if_neg ‹_›, if_pos ‹_›, List.length_append, List.length_drop]
    omega
  · exact absurd rfl h

theorem linesBetween_succ {lines rest : List String} {start : Int} {line : String}
    (h : linesFrom lines start = line :: rest) (n : Nat) :
    linesBetween lines start (start + (n + 1 : Nat)) = line :: rest.take n := by
  have hcount : (start + (n + 1 : Nat) - start).toNat = n + 1 := by omega
  rw [linesBetween, h, hcount, List.take_succ_cons]

theorem captureCall_lines (line : String) (rest : List String) :
    (captureCall line rest).lines
      = furtherLines (parentheses line).1 (parentheses line).2 rest + 1 :=
  Nat.add_comm _ _

/-- The lines that are captured are those up to the end of the call. -/
theorem endsCall_captureCall {lines rest : List String} {start : Int} {line : String}
    (h : linesFrom lines start = line :: rest) :
    EndsCall lines start (start + (captureCall line rest).lines) := by
  have hlength := length_linesFrom (h ▸ List.cons_ne_nil line rest : linesFrom lines start ≠ [])
  rw [h, List.length_cons] at hlength
  obtain ⟨hopen, hends⟩ := furtherLines_spec (parentheses line).1 (parentheses line).2 rest
  have hle := furtherLines_le (parentheses line).1 (parentheses line).2 rest
  rw [captureCall_lines]
  refine ⟨by omega, by omega, fun k hstart hk => ?_, ?_⟩
  · obtain ⟨n, rfl⟩ : ∃ n : Nat, k = start + (n + 1 : Nat) :=
      ⟨(k - start).toNat - 1, by omega⟩
    rw [AreBalanced, linesBetween_succ h, openedIn, closedIn, Nat.not_le]
    exact hopen n (by omega)
  · rw [AreBalanced, linesBetween_succ h, openedIn, closedIn]
    exact hends.imp_right fun hall => by omega

/-! ## The arguments in the text of a call -/

/-- A text falls into what stands before its first opening parenthesis, what this one and the last
    closing one enclose, and the rest from the last closing one on. The rest is empty if nothing is
    closed after the first opening parenthesis. -/
structure Divides (text before content rest : List Char) : Prop where
  text_eq : text = before ++ '(' :: (content ++ rest)
  not_mem_before : '(' ∉ before
  rest_closes : rest = [] ∨ ∃ tail, rest = ')' :: tail ∧ ')' ∉ tail
  rest_eq_nil_iff : rest = [] ↔ ')' ∉ content ++ rest

theorem beforeLast_eq_none {mark : Char} {s : List Char} (h : beforeLast mark s = none) :
    mark ∉ s := by
  unfold beforeLast at h
  split at h
  · next hdrop =>
      intro hmem
      have hne := List.dropWhile_eq_nil_iff.1 hdrop mark (List.mem_reverse.2 hmem)
      simp at hne
  · cases h

theorem beforeLast_eq_some {mark : Char} {s before : List Char}
    (h : beforeLast mark s = some before) :
    ∃ tail, s = before ++ mark :: tail ∧ mark ∉ tail := by
  unfold beforeLast at h
  split at h
  · cases h
  · next c front hdrop =>
      cases h
      have hhead : c ∈ (s.reverse.dropWhile (· != mark)).head? := by
        rw [hdrop]
        exact Option.mem_def.2 rfl
      obtain rfl : c = mark := by simpa using of_mem_head?_dropWhile hhead
      refine ⟨(s.reverse.takeWhile (· != c)).reverse, ?_, ?_⟩
      · rw [← List.reverse_inj, List.reverse_append, List.reverse_cons, List.reverse_reverse,
          List.reverse_reverse, List.append_assoc, List.singleton_append, ← hdrop,
          List.takeWhile_append_dropWhile]
      · intro hmem
        have hne := List.mem_takeWhile_imp (List.mem_reverse.1 hmem)
        simp at hne

/-- The arguments of a call divide its text. -/
theorem argumentText_divides {text : List Char} (h : '(' ∈ text) :
    ∃ rest, Divides text (text.takeWhile (· != '(')) (argumentText text) rest := by
  have hbefore : '(' ∉ text.takeWhile (· != '(') := fun hmem =>
    absurd (List.mem_takeWhile_imp hmem) (by decide)
  have htext := List.takeWhile_append_dropWhile (p := (· != '(')) (l := text)
  cases hdrop : text.dropWhile (· != '(') with
  | nil =>
      rw [List.dropWhile_eq_nil_iff] at hdrop
      exact absurd (hdrop '(' h) (by decide)
  | cons c inner =>
      have hhead : c ∈ (text.dropWhile (· != '(')).head? := by
        rw [hdrop]
        exact Option.mem_def.2 rfl
      rw [hdrop] at htext
      obtain rfl : c = '(' := by simpa using of_mem_head?_dropWhile hhead
      cases hlast : beforeLast ')' inner with
      | none =>
          have hnone := beforeLast_eq_none hlast
          refine ⟨[], ?_, hbefore, .inl rfl, by simpa [argumentText, hdrop, hlast] using hnone⟩
          simp [argumentText, hdrop, hlast, htext]
      | some content =>
          obtain ⟨tail, rfl, htail⟩ := beforeLast_eq_some hlast
          refine ⟨')' :: tail, ?_, hbefore, .inr ⟨tail, rfl, htail⟩, by simp⟩
          simp [argumentText, hdrop, hlast, htext]

/-! ## The parenthesis of a call -/

/-- What a call has before its opening parenthesis. -/
def Statement.IsHead : Statement → List Char → Prop
  | .agentCall agent, head => ∃ phrase gap gap', agentPhrase.IsSpelledBy phrase ∧ AreBlanks gap
      ∧ (∀ c ∈ gap', isBlank c) ∧ head = phrase ++ (gap ++ (agent.toList ++ gap'))
  | .commandCall name, head => ∃ gap, (∀ c ∈ gap, isBlank c) ∧ head = name.toList ++ gap
  | _, _ => False

theorem paren_not_mem_of_blank {gap : List Char} (h : ∀ c ∈ gap, isBlank c) : '(' ∉ gap :=
  fun hmem => absurd (h '(' hmem) (by decide)

theorem paren_not_mem_of_spells {s word : List Char} (h : Spells s word)
    (hword : ∀ w ∈ word, w.isLower) : '(' ∉ s :=
  fun hmem => absurd (h.isWordChar hword '(' hmem) (by decide)

theorem paren_not_mem_of_isReadable {name : String} (h : Context.IsReadable name) :
    '(' ∉ name.toList :=
  fun hmem => absurd (h.2 '(' hmem) (by decide)

/-- The parenthesis of a call is the first one on its line. -/
theorem exists_head_of_ofLine {line : String} {s : Statement} (h : Statement.ofLine line = some s)
    (hcall : s.isCall) :
    ∃ head rest, s.IsHead head ∧ '(' ∉ head ∧ line.toList = head ++ '(' :: rest := by
  have hderives := ofLine_eq_some_iff.1 h
  generalize line.toList = chars at hderives
  cases hderives with
  | @agentCall phrase gap opening agent rest hphrase hgap hagent hopening =>
      obtain ⟨gap', hgap', rfl⟩ := hopening
      refine ⟨phrase ++ (gap ++ (agent.toList ++ gap')), rest,
        ⟨phrase, gap, gap', hphrase, hgap, hgap', rfl⟩, ?_, by simp⟩
      obtain ⟨first, between, second, rfl, hfirst, hbetween, hsecond⟩ := hphrase
      have hletters : agentPhrase.IsLettered := by decide
      simp only [List.mem_append, not_or]
      exact ⟨⟨paren_not_mem_of_spells hfirst hletters.1, paren_not_mem_of_blank hbetween.2,
          paren_not_mem_of_spells hsecond hletters.2⟩,
        paren_not_mem_of_blank hgap.2, paren_not_mem_of_isReadable hagent,
        paren_not_mem_of_blank hgap'⟩
  | @commandCall opening name rest hname hopening =>
      obtain ⟨gap, hgap, rfl⟩ := hopening
      refine ⟨name.toList ++ gap, rest, ⟨gap, hgap, rfl⟩, ?_, by simp⟩
      simp only [List.mem_append, not_or]
      exact ⟨paren_not_mem_of_isReadable hname, paren_not_mem_of_blank hgap⟩
  | overrideStart | getOutput | setId | expand => cases hcall

theorem exists_blanks_stripChars (s : List Char) :
    ∃ lead trail, (∀ c ∈ lead, isBlank c) ∧ s = lead ++ (stripChars s ++ trail) := by
  refine ⟨s.takeWhile isBlank, ((s.dropWhile isBlank).reverse.takeWhile isBlank).reverse,
    fun c => List.mem_takeWhile_imp, ?_⟩
  rw [stripChars, dropBlanksRight, ← List.reverse_append, List.takeWhile_append_dropWhile,
    List.reverse_reverse, List.takeWhile_append_dropWhile]

theorem exists_append_intercalate (line : String) (rest : List String) :
    ∃ more, ("\n".intercalate (line :: rest)).toList = line.toList ++ more := by
  cases rest with
  | nil => exact ⟨[], by rw [String.intercalate_singleton, List.append_nil]⟩
  | cons next rest =>
      refine ⟨("\n" ++ "\n".intercalate (next :: rest)).toList, ?_⟩
      rw [String.intercalate_cons_cons, String.append_assoc, String.toList_append]

/-- What a line that begins a call has before its first parenthesis: blanks and the words of the
    call. -/
theorem exists_head_of_takeWhile {line : String} {s : Statement}
    (hs : Statement.ofLine (Text.strip line) = some s) (hcall : s.isCall) (more : List Char) :
    ∃ lead head, (∀ c ∈ lead, isBlank c) ∧ s.IsHead head
      ∧ (line.toList ++ more).takeWhile (· != '(') = lead ++ head := by
  obtain ⟨lead, trail, hlead, hline⟩ := exists_blanks_stripChars line.toList
  obtain ⟨head, inner, hhead, hparen, hstrip⟩ := exists_head_of_ofLine hs hcall
  rw [Text.strip, String.toList_ofList] at hstrip
  refine ⟨lead, head, hlead, hhead, ?_⟩
  have hbefore : ∀ c ∈ lead ++ head, (c != '(') = true := by
    intro c hc
    refine bne_iff_ne.2 fun heq => ?_
    subst heq
    exact (List.mem_append.1 hc).elim (paren_not_mem_of_blank hlead) hparen
  have hstop : ∀ c ∈ ('(' :: (inner ++ trail ++ more)).head?, (c != '(') = false := by
    rintro c ⟨⟩
    rfl
  have hwhole : line.toList ++ more = (lead ++ head) ++ '(' :: (inner ++ trail ++ more) := by
    rw [hline, hstrip]
    simp
  rw [hwhole, takeWhile_run hbefore hstop]

/-- A call takes the lines up to its end, and its arguments divide the text of these lines. If its
    line begins a call, what stands before the first parenthesis is blanks and the words of the
    call. -/
theorem captureAt_divides {lines : List String} {start : Int} {line : String}
    (hline : (linesFrom lines start).head? = some line) (hopen : '(' ∈ line.toList) :
    ∃ content next before rest, captureAt lines start = .ok (content, next)
      ∧ EndsCall lines start next
      ∧ Divides ("\n".intercalate (linesBetween lines start next)).toList before content.toList rest
      ∧ ∀ s, Statement.ofLine (Text.strip line) = some s → s.isCall →
          ∃ lead head, (∀ c ∈ lead, isBlank c) ∧ s.IsHead head ∧ before = lead ++ head := by
  obtain ⟨others, hlines⟩ := List.head?_eq_some_iff.1 hline
  obtain ⟨more, htext⟩ := exists_append_intercalate line
    (others.take (furtherLines (parentheses line).1 (parentheses line).2 others))
  have hcaptured : captureAt lines start
      = .ok ((captureCall line others).content, start + (captureCall line others).lines) := by
    rw [captureAt, hlines]
  have hcontent :
      (captureCall line others).content.toList = argumentText (line.toList ++ more) := by
    rw [← htext]
    exact String.toList_ofList
  obtain ⟨rest, hdivides⟩ := argumentText_divides (List.mem_append_left more hopen)
  refine ⟨_, _, (line.toList ++ more).takeWhile (· != '('), rest, hcaptured,
    endsCall_captureCall hlines, ?_, fun s hs hcall => exists_head_of_takeWhile hs hcall more⟩
  rw [captureCall_lines, linesBetween_succ hlines, htext, hcontent]
  exact hdivides

/-- A call that goes on with a second line. That line closes one parenthesis too many, which becomes
    the end of the arguments. -/
def openCall : List String :=
  ["# more", "  runAI\tas Critic (weigh(\"a\",", "\"b\"), or not) :)", "log(\"c\")"]

theorem captureAt_divides_openCall :
    (linesFrom openCall 1).head? = some "  runAI\tas Critic (weigh(\"a\","
      ∧ '(' ∈ "  runAI\tas Critic (weigh(\"a\",".toList
      ∧ ∃ content next before rest, captureAt openCall 1 = .ok (content, next)
        ∧ EndsCall openCall 1 next
        ∧ Divides ("\n".intercalate (linesBetween openCall 1 next)).toList before content.toList
          rest
        ∧ ∀ s, Statement.ofLine (Text.strip "  runAI\tas Critic (weigh(\"a\",") = some s →
            s.isCall →
            ∃ lead head, (∀ c ∈ lead, isBlank c) ∧ s.IsHead head ∧ before = lead ++ head := by
  have hline : (linesFrom openCall 1).head? = some "  runAI\tas Critic (weigh(\"a\"," := rfl
  have hopen : '(' ∈ "  runAI\tas Critic (weigh(\"a\",".toList := by decide
  exact ⟨hline, hopen, captureAt_divides hline hopen⟩

end AgentScript.Script
