import AgentScript.Proofs.Text.Line
import AgentScript.Proofs.Text.LineEnd
import Mathlib.Data.List.TakeWhile

set_option autoImplicit false

/-! # Texts divided into lines

What `splitLines` gives and what a reader of code takes for its lines differ only in the characters
that end a line. Both divide a text in the sense of `Divided`, and all of the wider division that
lies in one line of code depends on that line alone (`exists_splitLines_append`). -/

namespace AgentScript.Text

/-! ## Texts divided into lines -/

/-- A mark between a line and the text after it, where `isEnd` tells which characters end a line. A
    carriage return and a newline after it are one mark. -/
inductive IsMark (isEnd : Char → Bool) : List Char → List Char → Prop
  | pair (rest : List Char) : IsMark isEnd ['\r', '\n'] rest
  | single {c : Char} {rest : List Char} (hc : isEnd c = true)
      (hpair : ¬ ['\r', '\n'] <+: c :: rest) : IsMark isEnd [c] rest

/-- A text is divided into lines, each with the mark that ends it. -/
inductive Divided (isEnd : Char → Bool) : List Char → List (List Char) → Prop
  | nil : Divided isEnd [] []
  | last {line : List Char} (hline : ∀ c ∈ line, isEnd c = false) : Divided isEnd line [line]
  | next {front mark rest : List Char} {lines : List (List Char)}
      (hfront : ∀ c ∈ front, isEnd c = false) (hmark : IsMark isEnd mark rest)
      (hrest : Divided isEnd rest lines) :
      Divided isEnd (front ++ mark ++ rest) ((front ++ mark) :: lines)

namespace Divided

variable {isEnd : Char → Bool} {s : List Char} {lines : List (List Char)}

theorem flatten (h : Divided isEnd s lines) : lines.flatten = s := by
  induction h with
  | nil => rfl
  | last hline => exact List.flatten_singleton
  | next hfront hmark hrest ih => rw [List.flatten_cons, ih]

theorem pair (h : Divided isEnd s lines) :
    Divided isEnd ('\r' :: '\n' :: s) (['\r', '\n'] :: lines) :=
  next (List.forall_mem_nil _) (.pair s) h

variable {c : Char}

theorem single (hc : isEnd c = true) (hpair : ¬ ['\r', '\n'] <+: c :: s)
    (h : Divided isEnd s lines) : Divided isEnd (c :: s) ([c] :: lines) :=
  next (List.forall_mem_nil _) (.single hc hpair) h

theorem consToHead (hc : isEnd c = false) (h : Divided isEnd s lines) :
    Divided isEnd (c :: s) (consToHead c lines) := by
  cases h with
  | nil => exact last (List.forall_mem_singleton.2 hc)
  | last hline => exact last (List.forall_mem_cons.2 ⟨hc, hline⟩)
  | next hfront hmark hrest => exact next (List.forall_mem_cons.2 ⟨hc, hfront⟩) hmark hrest

end Divided

/-! ## The lines of a text and the lines of code -/

theorem not_pair_cons {c : Char} {s : List Char}
    (h : ∀ rest, c = '\r' → s = '\n' :: rest → False) : ¬ ['\r', '\n'] <+: c :: s := by
  rintro ⟨rest, hsplit⟩
  obtain ⟨rfl, rfl⟩ := List.cons.inj hsplit
  exact h rest rfl rfl

theorem divided_splitLines (s : List Char) : Divided isLineEnd s (splitLines s) := by
  fun_induction splitLines s with
  | case1 => exact .nil
  | case2 rest ih => exact ih.pair
  | case3 c rest hne hc ih => exact ih.single hc (not_pair_cons hne)
  | case4 c rest hne hc ih => exact ih.consToHead (by simpa using hc)

theorem splitLines_cons {c : Char} {s : List Char} (h : ¬ ['\r', '\n'] <+: c :: s) :
    splitLines (c :: s)
      = if isLineEnd c then [c] :: splitLines s else consToHead c (splitLines s) := by
  rw [splitLines]
  rintro rest rfl rfl
  exact h ⟨rest, rfl⟩

/-- The marks that end a line of code. -/
def endsCodeLine (c : Char) : Bool :=
  c == '\n' || c == '\r'

/-- The lines of a piece of code, each with the mark that ends it, and the line after the last
    mark. -/
def codeLines : List Char → List (List Char)
  | [] => [[]]
  | '\r' :: '\n' :: rest => ['\r', '\n'] :: codeLines rest
  | c :: rest => if endsCodeLine c then [c] :: codeLines rest else consToHead c (codeLines rest)

theorem divided_codeLines (s : List Char) : Divided endsCodeLine s (codeLines s) := by
  fun_induction codeLines s with
  | case1 => exact .last (List.forall_mem_nil _)
  | case2 rest ih => exact ih.pair
  | case3 c rest hne hc ih => exact ih.single hc (not_pair_cons hne)
  | case4 c rest hne hc ih => exact ih.consToHead (by simpa using hc)

theorem isBlank_of_isLineEnd {c : Char} (h : isLineEnd c = true) : isBlank c = true := by
  simp only [isLineEnd, Bool.or_eq_true, Bool.and_eq_true, decide_eq_true_eq, beq_iff_eq] at h
  simp only [isBlank, blanks, CharSet.contains, List.any_cons, List.any_nil, Bool.or_eq_true,
    Bool.and_eq_true, decide_eq_true_eq]
  omega

theorem isLineEnd_of_endsCodeLine (c : Char) (h : endsCodeLine c = true) : isLineEnd c = true := by
  obtain rfl | rfl : c = '\n' ∨ c = '\r' := by simpa [endsCodeLine] using h
  all_goals decide

/-! ## Marks -/

namespace IsMark

variable {mark rest : List Char}

theorem mono {isEnd isEnd' : Char → Bool} (h : IsMark isEnd mark rest)
    (hmono : ∀ c, isEnd c = true → isEnd' c = true) : IsMark isEnd' mark rest := by
  cases h with
  | pair => exact .pair rest
  | single hc hpair => exact .single (hmono _ hc) hpair

theorem alone {isEnd : Char → Bool} (h : IsMark isEnd mark rest) : IsMark isEnd mark [] := by
  cases h with
  | pair => exact .pair []
  | single hc => exact .single hc fun hpair => by simpa using hpair.length_le

theorem all_isBlank (h : IsMark isLineEnd mark rest) : mark.all isBlank := by
  cases h with
  | pair => simp [isBlank_lineEnd]
  | single hc => simpa using isBlank_of_isLineEnd hc

theorem splitLines_append (h : IsMark isLineEnd mark rest) :
    splitLines (mark ++ rest) = mark :: splitLines rest := by
  cases h with
  | pair => rfl
  | single hc hpair => rw [List.singleton_append, splitLines_cons hpair, if_pos hc]

section

variable {isEnd : Char → Bool} (hreturn : isEnd '\r' = true) (h : IsMark isEnd mark rest)

include hreturn h

theorem exists_cons : ∃ c tail, mark = c :: tail ∧ isEnd c = true := by
  cases h with
  | pair => exact ⟨'\r', ['\n'], rfl, hreturn⟩
  | single hc => exact ⟨_, [], rfl, hc⟩

variable {u v : List Char} (hu : ∀ c ∈ u, isEnd c = false)

include hu

theorem takeWhile_append : (u ++ mark ++ v).takeWhile (fun c => !isEnd c) = u := by
  obtain ⟨c, tail, rfl, hc⟩ := h.exists_cons hreturn
  rw [List.append_assoc, List.takeWhile_append_of_pos (by simpa using hu), List.cons_append,
    List.takeWhile_cons_of_neg (by simp [hc]), List.append_nil]

theorem dropWhile_append : (u ++ mark ++ v).dropWhile (fun c => !isEnd c) = mark ++ v := by
  obtain ⟨c, tail, rfl, hc⟩ := h.exists_cons hreturn
  rw [List.append_assoc, List.dropWhile_append_of_pos (by simpa using hu), List.cons_append,
    List.dropWhile_cons_of_neg (by simp [hc])]

/-- What stands before the first mark is determined by the text, and so is what follows. -/
theorem append_inj {u' v' : List Char} (hu' : ∀ c ∈ u', isEnd c = false)
    (heq : u ++ mark ++ v = u' ++ mark ++ v') : u = u' ∧ v = v' := by
  have huu' := congrArg (List.takeWhile fun c => !isEnd c) heq
  rw [takeWhile_append hreturn h hu, takeWhile_append hreturn h hu'] at huu'
  subst huu'
  exact ⟨rfl, List.append_cancel_left heq⟩

end

end IsMark

/-! ## The first line of code -/

/-- A line of code is divided without regard to the mark at its end and to what follows: the last of
    the lines in it goes up to the mark. -/
theorem exists_splitLines_append {front : List Char}
    (hfront : ∀ c ∈ front, endsCodeLine c = false) :
    ∃ pieces last, pieces.flatten ++ last = front ∧ ∀ mark rest, IsMark isLineEnd mark rest →
      splitLines (front ++ mark ++ rest) = pieces ++ (last ++ mark) :: splitLines rest := by
  induction front with
  | nil => exact ⟨[], [], rfl, fun mark rest hmark => hmark.splitLines_append⟩
  | cons c front ih =>
      obtain ⟨hc, hfront⟩ := List.forall_mem_cons.1 hfront
      obtain ⟨pieces, last, rfl, hsplit⟩ := ih hfront
      have hstep (s : List Char) : splitLines (c :: s)
          = if isLineEnd c then [c] :: splitLines s else consToHead c (splitLines s) := by
        refine splitLines_cons fun hpair => ?_
        have hreturn : c = '\r' := (List.cons_prefix_cons.1 hpair).1.symm
        rw [hreturn] at hc
        cases hc
      by_cases hend : isLineEnd c = true
      · refine ⟨[c] :: pieces, last, by simp, ?_⟩
        intro mark rest hmark
        rw [List.cons_append, List.cons_append, hstep, if_pos hend, hsplit mark rest hmark,
          List.cons_append]
      · have hhead (mark rest : List Char) (hmark : IsMark isLineEnd mark rest) :
            splitLines (c :: (pieces.flatten ++ last) ++ mark ++ rest)
              = consToHead c (pieces ++ (last ++ mark) :: splitLines rest) := by
          rw [List.cons_append, List.cons_append, hstep, if_neg hend, hsplit mark rest hmark]
        cases pieces with
        | nil => exact ⟨[], c :: last, rfl, hhead⟩
        | cons piece pieces => exact ⟨(c :: piece) :: pieces, last, by simp, hhead⟩

end AgentScript.Text
