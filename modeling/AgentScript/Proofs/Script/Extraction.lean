import AgentScript.Proofs.Script.Printing
import Mathlib.Data.List.Nodup

set_option autoImplicit false

/-! # Finding printed blocks

In a printed script every block is found at its place, and blanking it out leaves the other pieces
as they are (`findBlock_shownText`). So the blocks of a printed script are those it was printed from
(`Blocks.ofText_print`). -/

namespace AgentScript.Script

open Text

/-! ## One block -/

/-- A block is found where it is printed, if its opening delimiter is absent before it and its
    closing one is not in its body. -/
theorem findBlock_append {n : BlockName} {body : String} {u : List Char} (hu : n.opening.Absent u)
    (hbody : ¬ n.closing.OccursIn body.toList) (v : List Char) :
    findBlock n (u ++ ((Piece.block n body).chars ++ v))
      = some ⟨u.length, u.length + (Piece.block n body).chars.length,
          '\n' :: (body.toList ++ ['\n'])⟩ := by
  have hchars : (Piece.block n body).chars ++ v = n.openingWords
      ++ '\n' :: ((body.toList ++ ['\n']) ++ (n.closingWords ++ v)) := by
    simp [Piece.chars]
  have hopening : splitAtMatch n.opening.match? (u ++ ((Piece.block n body).chars ++ v))
      = some (u, '\n' :: ((body.toList ++ ['\n']) ++ (n.closingWords ++ v))) := by
    rw [splitAtMatch_append (hu _), hchars, splitAtMatch_of_match (opening_match? n _),
      Option.map_some, List.append_nil]
  have hinterior : n.closing.Avoids ('\n' :: (body.toList ++ ['\n']))
      (n.closingWords ++ v) :=
    ⟨Phrase.match?_blank (isPlain_closing n) isBlank_newline _,
      Phrase.avoids_of_not_occursIn (isPlain_closing n) isBlank_newline hbody
        (matchKeyword_closingWords n n _)⟩
  have hclosing : splitAtMatch n.closing.match?
        ('\n' :: ((body.toList ++ ['\n']) ++ (n.closingWords ++ v)))
      = some ('\n' :: (body.toList ++ ['\n']), v) := by
    rw [← List.cons_append, splitAtMatch_append hinterior,
      splitAtMatch_of_match (closing_match? n v), Option.map_some, List.append_nil]
  have hstop : (u ++ ((Piece.block n body).chars ++ v)).length - v.length
      = u.length + (Piece.block n body).chars.length := by
    rw [List.length_append, List.length_append]
    omega
  rw [findBlock, hopening]
  change (splitAtMatch n.closing.match? _ >>= _) = _
  rw [hclosing]
  exact congrArg (fun stop => some (Region.mk u.length stop _)) hstop

theorem findBlock_of_absent {n : BlockName} {u : List Char} (hu : n.opening.Absent u) :
    findBlock n u = none := by
  rw [findBlock, splitAtMatch_of_absent (isPlain_opening n) hu]
  rfl

/-! ## Blanking out -/

/-- What blanking out makes of a character. -/
def blankChar (c : Char) : Char :=
  if c != '\n' then ' ' else c

theorem isBlank_blankChar (c : Char) : isBlank (blankChar c) := by
  unfold blankChar
  split
  · decide
  · next h => rw [show c = '\n' by simpa using h]; decide

theorem blankChar_blankChar (c : Char) : blankChar (blankChar c) = blankChar c := by
  by_cases h : c = '\n'
  · rw [h]
    rfl
  · simp [blankChar, h]

theorem blankOut_append {r : Region} {u s : List Char} (hstart : r.start = u.length)
    (hstop : r.stop = u.length + s.length) (v : List Char) :
    blankOut r (u ++ (s ++ v)) = u ++ (s.map blankChar ++ v) := by
  refine List.ext_getElem? fun i => ?_
  rw [blankOut, List.getElem?_mapIdx, hstart, hstop]
  simp only [List.getElem?_append, List.length_map, List.getElem?_map]
  by_cases hu : i < u.length
  · simp [hu, Nat.not_le.2 hu]
  · by_cases hs : i - u.length < s.length
    · have hlt : i < u.length + s.length := by omega
      simp [hu, hs, hlt, Nat.not_lt.1 hu, blankChar]
    · have hge : ¬ i < u.length + s.length := by omega
      simp [hu, hs, hge]

/-! ## Hidden blocks -/

namespace Piece

/-- The characters of a piece, blanked out if it is a hidden block. -/
def shown (hidden : BlockName → Bool) (piece : Piece) : List Char :=
  if piece.name?.any hidden then piece.chars.map blankChar else piece.chars

theorem length_shown (hidden : BlockName → Bool) (piece : Piece) :
    (piece.shown hidden).length = piece.chars.length := by
  unfold shown
  split
  · exact List.length_map _
  · rfl

theorem shown_none (piece : Piece) : piece.shown (fun _ => false) = piece.chars := by
  cases piece <;> rfl

theorem map_blankChar_shown (hidden : BlockName → Bool) (piece : Piece) :
    (piece.shown hidden).map blankChar = piece.chars.map blankChar := by
  unfold shown
  split
  · rw [List.map_map]
    exact List.map_congr_left fun c _ => blankChar_blankChar c
  · rfl

end Piece

/-- Hide the block of one more name. -/
def hideAlso (hidden : BlockName → Bool) (n : BlockName) : BlockName → Bool :=
  fun m => hidden m || m == n

/-- A printed script in which some blocks are blanked out. -/
def shownText (hidden : BlockName → Bool) (pieces : List Piece) : List Char :=
  pieces.flatMap fun piece => piece.shown hidden ++ ['\n']

theorem shownText_append (hidden : BlockName → Bool) (pieces more : List Piece) :
    shownText hidden (pieces ++ more) = shownText hidden pieces ++ shownText hidden more :=
  List.flatMap_append

theorem shownText_cons (hidden : BlockName → Bool) (piece : Piece) (rest : List Piece) :
    shownText hidden (piece :: rest) = piece.shown hidden ++ '\n' :: shownText hidden rest := by
  rw [shownText, List.flatMap_cons, List.append_assoc]
  rfl

theorem length_shownText (hidden hidden' : BlockName → Bool) (pieces : List Piece) :
    (shownText hidden pieces).length = (shownText hidden' pieces).length := by
  induction pieces with
  | nil => rfl
  | cons piece rest ih =>
      simp only [shownText_cons, List.length_append, List.length_cons, Piece.length_shown, ih]

theorem Piece.shown_hideAlso {n : BlockName} {piece : Piece} (h : piece.name? ≠ some n)
    (hidden : BlockName → Bool) : piece.shown (hideAlso hidden n) = piece.shown hidden := by
  cases piece with
  | block m body =>
      have hne : m ≠ n := fun hmn => h (congrArg some hmn)
      have hsame : hideAlso hidden n m = hidden m := by simp [hideAlso, hne]
      change (if hideAlso hidden n m then _ else _) = if hidden m then _ else _
      rw [hsame]
  | pass => rfl

theorem shownText_hideAlso {n : BlockName} {pieces : List Piece}
    (h : ∀ piece ∈ pieces, piece.name? ≠ some n) (hidden : BlockName → Bool) :
    shownText (hideAlso hidden n) pieces = shownText hidden pieces := by
  induction pieces with
  | nil => rfl
  | cons piece rest ih =>
      rw [shownText_cons, shownText_cons, Piece.shown_hideAlso (h piece List.mem_cons_self),
        ih fun other hother => h other (List.mem_cons_of_mem _ hother)]

/-! ## Printed scripts -/

/-- Pieces with at most one block of each name, whose bodies can all be told from their
    delimiters. -/
structure ArePrintable (pieces : List Piece) : Prop where
  names : (pieces.filterMap Piece.name?).Nodup
  bodies : ∀ n body, .block n body ∈ pieces → IsPrintable n body

theorem bodyOf_mem {n : BlockName} {body : String} {pieces : List Piece}
    (h : bodyOf n pieces = some body) : .block n body ∈ pieces := by
  fun_induction bodyOf n pieces with
  | case1 => cases h
  | case2 body rest =>
      cases h
      exact List.mem_cons_self
  | case3 m body rest hne ih => exact List.mem_cons_of_mem _ (ih h)
  | case4 rest ih => exact List.mem_cons_of_mem _ (ih h)

theorem bodyOf_eq_none {n : BlockName} {pieces : List Piece} (h : bodyOf n pieces = none) :
    ∀ piece ∈ pieces, piece.name? ≠ some n := by
  fun_induction bodyOf n pieces with
  | case1 => simp
  | case2 body rest => cases h
  | case3 m body rest hne ih =>
      exact List.forall_mem_cons.2 ⟨fun hm => hne (Option.some.inj hm), ih h⟩
  | case4 rest ih => exact List.forall_mem_cons.2 ⟨fun hm => (nomatch hm), ih h⟩

/-- There is no second block of a name. -/
theorem ArePrintable.alone {before after : List Piece} {n : BlockName} {body : String}
    (h : ArePrintable (before ++ .block n body :: after)) :
    ∀ piece ∈ before ++ after, piece.name? ≠ some n := by
  intro piece hpiece hname
  have hnames := h.names
  have hcons : (Piece.block n body :: after).filterMap Piece.name?
      = n :: after.filterMap Piece.name? :=
    rfl
  rw [List.filterMap_append, hcons, List.nodup_middle, ← List.filterMap_append,
    List.nodup_cons] at hnames
  exact hnames.1 (List.mem_filterMap.2 ⟨piece, hpiece, hname⟩)

/-- The opening delimiter of a block is absent from other pieces, provided that the blocks that may
    override the prompt are hidden when an override block is looked for. -/
theorem opening_absent_shown {n : BlockName} {piece : Piece} (hne : piece.name? ≠ some n)
    (hbody : ∀ m body, piece = .block m body → IsPrintable m body) {hidden : BlockName → Bool}
    (hnested : ∀ m : BlockName, n = .overridePrompt → m.mayOverride → hidden m) :
    n.opening.Absent (piece.shown hidden ++ ['\n']) := by
  unfold Piece.shown
  split
  · refine Phrase.absent_of_blank (isPlain_opening n) fun c hc => ?_
    -- nothing but blanks is left of a hidden block
    rcases List.mem_append.1 hc with hc | hc
    · obtain ⟨d, -, rfl⟩ := List.mem_map.1 hc
      exact isBlank_blankChar d
    · rw [List.mem_singleton.1 hc]
      exact isBlank_newline
  · next hshown =>
      cases piece with
      | pass => exact opening_absent_passWords n
      | block m body =>
          refine Piece.opening_absent_block ?_ ((hbody m body rfl).delimiters n ?_).1
          · exact fun hmn => hne (congrArg some hmn)
          · exact fun ⟨hn, hm⟩ => hshown (hnested m hn hm)

theorem passPrompt_absent_chars {piece : Piece} (hne : piece ≠ .pass)
    (hbody : ∀ m body, piece = .block m body → IsPrintable m body) :
    passPrompt.Absent (piece.chars ++ ['\n']) := by
  cases piece with
  | pass => exact absurd rfl hne
  | block m body =>
      exact Piece.absent_block isPlain_passPrompt (passPrompt_absent_openingWords m)
        (passPrompt_absent_closingWords m) (hbody m body rfl).pass
        (matchKeyword_closingWords .prompt m)

/-- A block is found in a printed script just when it is there, with its body, and blanking it out
    hides it. -/
theorem findBlock_shownText {pieces : List Piece} (h : ArePrintable pieces) {n : BlockName}
    (hidden : BlockName → Bool) (hn : hidden n = false)
    (hnested : ∀ m : BlockName, n = .overridePrompt → m.mayOverride → hidden m) :
    (findBlock n (shownText hidden pieces)).map Region.body = bodyOf n pieces
      ∧ ∀ hidden', blankOut? (findBlock n (shownText hidden pieces)) (shownText hidden' pieces)
        = shownText (hideAlso hidden' n) pieces := by
  have habsent (part : List Piece) (hpart : ∀ piece ∈ part, piece ∈ pieces)
      (hnames : ∀ piece ∈ part, piece.name? ≠ some n) :
      n.opening.Absent (shownText hidden part) :=
    Phrase.Absent.flatMap fun piece hpiece => opening_absent_shown (hnames piece hpiece)
      (fun m body hm => h.bodies m body (hm ▸ hpart piece hpiece)) hnested
  cases hb : bodyOf n pieces with
  | none =>
      have hnames := bodyOf_eq_none hb
      rw [findBlock_of_absent (habsent pieces (fun _ hpiece => hpiece) hnames)]
      exact ⟨rfl, fun hidden' => (shownText_hideAlso hnames hidden').symm⟩
  | some body =>
      have hprintable := h.bodies n body (bodyOf_mem hb)
      obtain ⟨before, after, rfl⟩ := List.append_of_mem (bodyOf_mem hb)
      -- no other piece is a block of this name, before it or after it
      have hbefore := fun piece hpiece => h.alone piece (List.mem_append_left after hpiece)
      have hafter := fun piece hpiece => h.alone piece (List.mem_append_right before hpiece)
      have hclosing : ¬ n.closing.OccursIn body.toList := by
        refine (hprintable.delimiters n ?_).2
        rintro ⟨rfl, hm⟩
        cases hm
      have hshown : (Piece.block n body).shown hidden = (Piece.block n body).chars :=
        if_neg (by rw [Piece.name?, Option.any_some, hn]; decide)
      rw [shownText_append, shownText_cons, hshown,
        findBlock_append (habsent before (fun _ => List.mem_append_left _) hbefore) hclosing]
      constructor
      · rw [Option.map_some, Region.body, stripChars_newlines]
        exact congrArg some hprintable.strip
      · intro hidden'
        have hhidden : (Piece.block n body).shown (hideAlso hidden' n)
            = (Piece.block n body).chars.map blankChar :=
          if_pos (by simp [Piece.name?, hideAlso])
        rw [shownText_append, shownText_cons, shownText_append, shownText_cons,
          shownText_hideAlso hbefore, shownText_hideAlso hafter, hhidden,
          ← Piece.map_blankChar_shown hidden']
        exact blankOut_append (length_shownText hidden hidden' before)
          (by rw [length_shownText hidden hidden', Piece.length_shown]) _

/-- A printable body has no carriage return at its end. -/
theorem IsPrintable.lineEnds_newline {n : BlockName} {body : String} (h : IsPrintable n body) :
    ¬ ['\r', '\n'] <:+: body.toList ++ ['\n'] := by
  rw [List.infix_concat_iff, not_or]
  refine ⟨fun ⟨u, hu⟩ => ?_, h.lineEnds⟩
  have hbody : u ++ ['\r'] = body.toList := by
    have hline : u ++ ['\r'] ++ ['\n'] = body.toList ++ ['\n'] := by simpa using hu
    exact List.append_cancel_right hline
  have hstrip : stripChars body.toList = body.toList := by
    have hchars := congrArg String.toList h.strip
    rwa [Text.strip, String.toList_ofList] at hchars
  exact absurd (not_isBlank_of_stripChars (hstrip.trans hbody.symm)) (by decide)

theorem joinLineEnds_piece {piece : Piece}
    (h : ∀ n body, piece = .block n body → IsPrintable n body) (v : List Char) :
    joinLineEnds (piece.chars ++ '\n' :: v) = piece.chars ++ '\n' :: joinLineEnds v := by
  cases piece with
  | pass => exact joinLineEnds_append (by decide) v
  | block n body =>
      have hchars (v : List Char) : (Piece.block n body).chars ++ '\n' :: v
          = n.openingWords ++ '\n' :: (body.toList ++ '\n' :: (n.closingWords ++ '\n' :: v)) := by
        simp [Piece.chars_block]
      rw [hchars, hchars, joinLineEnds_append, joinLineEnds_append (h n body rfl).lineEnds_newline,
        joinLineEnds_append]
      · cases n <;> decide
      · cases n <;> decide

/-- No line end of a printed script is joined. -/
theorem joinLineEnds_print {pieces : List Piece} (h : ArePrintable pieces) :
    joinLineEnds (print pieces).toList = shownText (fun _ => false) pieces := by
  rw [print_toList]
  have hbodies := h.bodies
  clear h
  induction pieces with
  | nil => rfl
  | cons piece rest ih =>
      rw [List.flatMap_cons, List.append_assoc, List.singleton_append, joinLineEnds_piece,
        ih fun n body hmem => hbodies n body (List.mem_cons_of_mem _ hmem), shownText_cons,
        Piece.shown_none]
      exact fun n body hpiece => hbodies n body (hpiece ▸ List.mem_cons_self)

/-- A directive is found in a printed script just when it was printed. -/
theorem splitAtMatch_passPrompt {pieces : List Piece} (h : ArePrintable pieces) :
    (splitAtMatch passPrompt.match? (shownText (fun _ => false) pieces)).isSome
      ↔ Piece.pass ∈ pieces := by
  constructor
  · intro hsome
    by_contra hpass
    have habsent : passPrompt.Absent (shownText (fun _ => false) pieces) := by
      refine Phrase.Absent.flatMap fun piece hpiece => ?_
      rw [Piece.shown_none]
      exact passPrompt_absent_chars (fun hp => hpass (hp ▸ hpiece))
        fun m body hm => h.bodies m body (hm ▸ hpiece)
    rw [splitAtMatch_of_absent isPlain_passPrompt habsent] at hsome
    cases hsome
  · intro hpass
    obtain ⟨before, after, rfl⟩ := List.append_of_mem hpass
    rw [splitAtMatch_isSome_iff, shownText_append, shownText_cons, Piece.shown_none]
    exact ⟨_, _, rfl, by rw [Piece.chars, passPrompt_match?]; rfl⟩

theorem Blocks.ofText_pieces {pieces : List Piece} (h : ArePrintable pieces) :
    Blocks.ofText (print pieces) =
      { beforePrompt := bodyOf .beforePrompt pieces
        prompt := if Piece.pass ∈ pieces then none else bodyOf .prompt pieces
        overridePrompt := bodyOf .overridePrompt pieces
        afterPrompt := bodyOf .afterPrompt pieces } := by
  have hfind (n : BlockName) (hn : n ≠ .overridePrompt) :=
    findBlock_shownText h (n := n) (fun _ => false) rfl fun _ ho => absurd ho hn
  have hbefore := hfind .beforePrompt (by decide)
  have hprompt := hfind .prompt (by decide)
  have hafter := hfind .afterPrompt (by decide)
  -- an override block is looked for where the blocks that may hold one are hidden
  have hoverride := findBlock_shownText h (n := .overridePrompt)
    (hideAlso (hideAlso (fun _ => false) .beforePrompt) .afterPrompt) rfl
    fun m _ hm => by cases m <;> first | rfl | cases hm
  unfold Blocks.ofText
  dsimp only
  rw [joinLineEnds_print h, hbefore.2, hafter.2, hbefore.1, hprompt.1, hafter.1, hoverride.1]
  simp only [splitAtMatch_passPrompt h]

theorem bodyOf_pass (n : BlockName) (before after : List Piece) :
    bodyOf n (before ++ .pass :: after) = bodyOf n (before ++ after) := by
  induction before with
  | nil => rfl
  | cons piece before ih =>
      cases piece with
      | block m body => rw [List.cons_append, List.cons_append, bodyOf, bodyOf, ih]
      | pass => exact ih

theorem ArePrintable.pass {before after : List Piece} (h : ArePrintable (before ++ after)) :
    ArePrintable (before ++ .pass :: after) where
  names := by
    have hnames := h.names
    rw [List.filterMap_append] at hnames ⊢
    exact hnames
  bodies n body hmem := by
    refine h.bodies n body ?_
    rcases List.mem_append.1 hmem with hmem | hmem
    · exact List.mem_append_left _ hmem
    · rcases List.mem_cons.1 hmem with hpass | hmem
      · cases hpass
      · exact List.mem_append_right _ hmem

/-- The blocks of a printed script are those that it was printed from, in whatever order they
    stand. A directive that is put somewhere among them only takes away the prompt. -/
theorem Blocks.ofText_print {pieces : List Piece} (h : ArePrintable pieces) :
    Blocks.ofText (print pieces) =
        { beforePrompt := bodyOf .beforePrompt pieces
          prompt := if Piece.pass ∈ pieces then none else bodyOf .prompt pieces
          overridePrompt := bodyOf .overridePrompt pieces
          afterPrompt := bodyOf .afterPrompt pieces }
      ∧ ∀ before after, pieces = before ++ after →
        Blocks.ofText (print (before ++ .pass :: after))
          = { Blocks.ofText (print pieces) with prompt := none } := by
  refine ⟨ofText_pieces h, ?_⟩
  rintro before after rfl
  have hpass : Piece.pass ∈ before ++ .pass :: after := by simp
  rw [ofText_pieces h, ofText_pieces h.pass, if_pos hpass, bodyOf_pass, bodyOf_pass, bodyOf_pass]

/-- A script whose last block holds the opening delimiter of an override block. -/
def halfOverride : List Piece :=
  [.block .prompt "", .block .beforePrompt "log(\"end\")", .block .overridePrompt "weekend",
    .block .afterPrompt "start overridePrompt\nyes"]

theorem Blocks.ofText_print_halfOverride :
    ArePrintable halfOverride
      ∧ Blocks.ofText (print halfOverride) = ⟨some "log(\"end\")", some "", some "weekend",
        some "start overridePrompt\nyes"⟩
      ∧ Blocks.ofText (print ([.block .prompt "", .pass] ++ halfOverride.tail))
        = { Blocks.ofText (print halfOverride) with prompt := none } := by
  have h : ArePrintable halfOverride := by
    refine ⟨by decide, fun n body hmem => ?_⟩
    simp only [halfOverride, List.mem_cons, Piece.block.injEq, List.not_mem_nil, or_false] at hmem
    rcases hmem with ⟨rfl, rfl⟩ | ⟨rfl, rfl⟩ | ⟨rfl, rfl⟩ | ⟨rfl, rfl⟩
    all_goals
      refine ⟨by decide +kernel, by decide +kernel, by decide +kernel, fun m hm => ?_⟩
      cases m <;> first | exact absurd ⟨rfl, rfl⟩ hm | decide +kernel
  exact ⟨h, (ofText_print h).1, (ofText_print h).2 [.block .prompt ""] halfOverride.tail rfl⟩

end AgentScript.Script
