import AgentScript.Proofs.Text.Blank
import AgentScript.Proofs.Text.Phrase

set_option autoImplicit false

/-! # Joined line ends

A carriage return before a newline is a blank before a blank. Leaving it out makes no phrase and
breaks none (`Phrase.match?_joinLineEnds`), and what becomes of a part of a text that a newline
follows does not depend on the rest (`exists_joinsTo`). -/

namespace AgentScript.Text

theorem isBlank_lineEnd : isBlank '\r' ∧ isBlank '\n' := by
  decide

/-! ## Parts of a text -/

/-- Joining line ends turns the part `u` of a text into `u'`, wherever a newline follows it. -/
def JoinsTo (u u' : List Char) : Prop :=
  ∀ v, joinLineEnds (u ++ '\n' :: v) = u' ++ '\n' :: joinLineEnds v

theorem exists_joinsTo (u : List Char) : ∃ u', JoinsTo u u' := by
  fun_induction joinLineEnds u with
  | case1 => exact ⟨[], fun v => joinLineEnds_cons (by simp)⟩
  | case2 rest ih =>
      obtain ⟨u', hu'⟩ := ih
      exact ⟨'\n' :: u', fun v => congrArg ('\n' :: ·) (hu' v)⟩
  | case3 c rest hne ih =>
      obtain ⟨u', hu'⟩ := ih
      by_cases hr : c = '\r' ∧ rest = []
      · -- the carriage return is joined to the newline
        obtain ⟨rfl, rfl⟩ := hr
        exact ⟨[], fun v => rfl⟩
      · refine ⟨c :: u', fun v => ?_⟩
        have hhead : ¬ ['\r', '\n'] <+: c :: (rest ++ '\n' :: v) := by
          rintro ⟨tail, hsplit⟩
          obtain ⟨rfl, htail⟩ := List.cons.inj hsplit
          cases rest with
          | nil => exact hr ⟨rfl, rfl⟩
          | cons d rest =>
              exact hne rest rfl (congrArg (· :: rest) (List.cons.inj htail).1.symm)
        rw [List.cons_append, joinLineEnds_cons hhead, hu', List.cons_append]

theorem all_isBlank_joinLineEnds (s : List Char) :
    (joinLineEnds s).all isBlank = s.all isBlank := by
  fun_induction joinLineEnds s with
  | case1 => rfl
  | case2 rest ih =>
      simp only [List.all_cons, isBlank_lineEnd.1, isBlank_lineEnd.2, Bool.true_and, ih]
  | case3 c rest hne ih => rw [List.all_cons, List.all_cons, ih]

/-! ## Matches in a text with joined line ends -/

theorem matchKeyword_joinLineEnds {word : List Char} (hword : ∀ w ∈ word, isBlank w = false)
    (s : List Char) :
    matchKeyword word (joinLineEnds s) = (matchKeyword word s).map joinLineEnds := by
  induction word generalizing s with
  | nil => rfl
  | cons w word ih =>
      have hw : isBlank w = false := hword w List.mem_cons_self
      fun_cases joinLineEnds s with
      | case1 => rfl
      | case2 rest =>
          rw [matchKeyword_cons, matchKeyword_cons, foldLetter_ne_of_isBlank isBlank_lineEnd.1 hw,
            foldLetter_ne_of_isBlank isBlank_lineEnd.2 hw]
          rfl
      | case3 c rest hne =>
          rw [matchKeyword_cons, matchKeyword_cons]
          split
          · exact ih (fun w hw => hword w (List.mem_cons_of_mem _ hw)) rest
          · rfl

theorem dropWhile_isBlank_joinLineEnds (s : List Char) :
    (joinLineEnds s).dropWhile isBlank = joinLineEnds (s.dropWhile isBlank) := by
  fun_induction joinLineEnds s with
  | case1 => rfl
  | case2 rest ih =>
      rw [List.dropWhile_cons_of_pos isBlank_lineEnd.2,
        List.dropWhile_cons_of_pos isBlank_lineEnd.1,
        List.dropWhile_cons_of_pos isBlank_lineEnd.2, ih]
  | case3 c rest hne ih =>
      by_cases hc : isBlank c
      · rw [List.dropWhile_cons_of_pos hc, List.dropWhile_cons_of_pos hc, ih]
      · rw [List.dropWhile_cons_of_neg hc, List.dropWhile_cons_of_neg hc]
        exact (joinLineEnds.eq_3 c rest hne).symm

theorem matchBlanks_joinLineEnds (s : List Char) :
    matchBlanks (joinLineEnds s) = (matchBlanks s).map joinLineEnds := by
  fun_cases joinLineEnds s with
  | case1 => rfl
  | case2 rest =>
      rw [matchBlanks, matchBlanks, if_pos isBlank_lineEnd.1, if_pos isBlank_lineEnd.2,
        dropWhile_isBlank_joinLineEnds, Option.map_some,
        List.dropWhile_cons_of_pos isBlank_lineEnd.2]
  | case3 c rest hne =>
      rw [matchBlanks, matchBlanks]
      split
      · rw [dropWhile_isBlank_joinLineEnds, Option.map_some]
      · rfl

variable {p : Phrase} (hp : p.IsPlain)

namespace Phrase

include hp

theorem match?_joinLineEnds (s : List Char) :
    p.match? (joinLineEnds s) = (p.match? s).map joinLineEnds := by
  have hfirst := matchKeyword_joinLineEnds fun w hw => (isKeyword_mem hp.first (w := w) hw).1
  have hsecond := matchKeyword_joinLineEnds fun w hw => (isKeyword_mem hp.second (w := w) hw).1
  rw [match?, match?, hfirst]
  cases matchKeyword p.first.toList s with
  | none => rfl
  | some afterFirst =>
      rw [Option.map_some, Option.bind_some, Option.bind_some, matchBlanks_joinLineEnds]
      cases matchBlanks afterFirst with
      | none => rfl
      | some afterBlanks => exact hsecond afterBlanks

/-- Joining line ends brings about no match. -/
theorem occursIn_of_joinLineEnds {s : List Char} (h : p.OccursIn (joinLineEnds s)) :
    p.OccursIn s := by
  obtain ⟨before, rest, hsplit, hmatch⟩ := h
  fun_induction joinLineEnds s generalizing before with
  | case1 =>
      obtain ⟨-, rfl⟩ := List.append_eq_nil_iff.1 hsplit.symm
      exact ⟨[], [], rfl, hmatch⟩
  | case2 s ih =>
      cases before with
      | nil =>
          obtain rfl := hsplit
          rw [match?_blank hp isBlank_lineEnd.2] at hmatch
          cases hmatch
      | cons d before => 
          obtain ⟨u, v, rfl, hu⟩ := ih before (List.cons.inj hsplit).2
          exact ⟨'\r' :: '\n' :: u, v, rfl, hu⟩
  | case3 c s hne ih =>
      cases before with
      | nil =>
          refine ⟨[], c :: s, rfl, ?_⟩
          rw [List.nil_append, ← joinLineEnds.eq_3 c s hne] at hsplit
          rwa [← hsplit, match?_joinLineEnds hp, Option.isSome_map] at hmatch
      | cons d before =>
          obtain ⟨u, v, rfl, hu⟩ := ih before (List.cons.inj hsplit).2
          exact ⟨c :: u, v, rfl, hu⟩

end Phrase

namespace JoinsTo

variable {u u' : List Char} (h : JoinsTo u u')

include h

theorem append_newline : joinLineEnds (u ++ ['\n']) = u' ++ ['\n'] :=
  h []

theorem all_isBlank : u'.all isBlank = u.all isBlank := by
  have hall := all_isBlank_joinLineEnds (u ++ ['\n'])
  rw [h.append_newline, List.all_append, List.all_append] at hall
  simpa [isBlank_lineEnd.2] using hall

include hp

/-- What occurs in a part once its line ends are joined occurs in it before. -/
theorem occursIn (hoccurs : p.OccursIn u') : p.OccursIn u := by
  have hjoined : p.OccursIn (joinLineEnds (u ++ ['\n'])) := by
    rw [h.append_newline]
    exact hoccurs.mono hp (List.prefix_append u' ['\n']).isInfix
  exact Phrase.occursIn_of_append_blank hp isBlank_lineEnd.2
    (Phrase.occursIn_of_joinLineEnds hp hjoined)

end JoinsTo

end AgentScript.Text
