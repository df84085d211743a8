import AgentScript.Sandbox.Imports
import Mathlib.Data.List.Basic
import Mathlib.Data.List.Induction
import Mathlib.Data.List.Nodup
import Mathlib.Data.List.Shortlex

set_option autoImplicit false

/-! # The imports that are found

Trees of code import a module wherever a statement in them names it, however deep
(`Tree.Imports`). A place of an import is the way down to its statement and the number of the module
in the statement; places come level by level, and from left to right within a level
(`ImportPlace.Before`). The modules that are found are those that are imported, each once, in the
order of the first places where they are (`findImports_inOrder`). -/

namespace AgentScript.Sandbox

/-! ## Imports -/

/-- A tree stands directly inside another one, in any of its parts. -/
inductive Tree.Holds : Tree → Tree → Prop where
  | branch {body orElse : List Tree} {t : Tree} (h : t ∈ body) : Holds (.branch body orElse) t
  | orElse {body orElse : List Tree} {t : Tree} (h : t ∈ orElse) : Holds (.branch body orElse) t
  | scope {body : List Tree} {t : Tree} (h : t ∈ body) : Holds (.scope body) t
  | handler {body : List Tree} {t : Tree} (h : t ∈ body) : Holds (.handler body) t
  | attempt {body handlers orElse atLast : List Tree} {t : Tree} (h : t ∈ body) :
      Holds (.attempt body handlers orElse atLast) t
  | rescue {body handlers orElse atLast : List Tree} {t : Tree} (h : t ∈ handlers) :
      Holds (.attempt body handlers orElse atLast) t
  | success {body handlers orElse atLast : List Tree} {t : Tree} (h : t ∈ orElse) :
      Holds (.attempt body handlers orElse atLast) t
  | atLast {body handlers orElse atLast : List Tree} {t : Tree} (h : t ∈ atLast) :
      Holds (.attempt body handlers orElse atLast) t

/-- A tree is itself a statement that names a module as the one of a number, by the first part of
    its name: it lists the module, or imports names from it and it is not relative. -/
inductive Tree.NamesModule : Tree → Nat → String → Prop where
  | listed {modules : List Imported} {k : Nat} {m : Imported} {name : String} {more : List String}
      (hm : modules[k]? = some m) (hpath : m.path = name :: more) :
      NamesModule (.simple (.importModules modules)) k name
  | source {line : Nat} {name : String} {more : List String} {names : Option (List Imported)} :
      NamesModule (.simple (.importFrom line 0 (name :: more) names)) 0 name

/-- A tree imports a module: it names it, or a tree inside it does. -/
inductive Tree.Imports (name : String) : Tree → Prop where
  | named {t : Tree} {k : Nat} (h : t.NamesModule k name) : Imports name t
  | inside {t s : Tree} (hs : t.Holds s) (h : Imports name s) : Imports name t

theorem Tree.mem_children_iff {t s : Tree} : s ∈ t.children ↔ t.Holds s := by
  constructor
  · intro h
    cases t with
    | simple => cases h
    | branch body orElse => exact (List.mem_append.1 h).elim .branch .orElse
    | scope body => exact .scope h
    | handler body => exact .handler h
    | attempt body handlers orElse atLast =>
        simp only [children, List.mem_append] at h
        rcases h with ((h | h) | h) | h
        · exact .attempt h
        · exact .rescue h
        · exact .success h
        · exact .atLast h
  · intro h
    cases h with
    | scope h | handler h => exact h
    | branch h => exact List.mem_append_left _ h
    | orElse h => exact List.mem_append_right _ h
    | attempt h | rescue h | success h | atLast h => simp [children, h]

/-! ## Ways into trees -/

/-- A tree lies among some trees at the end of a way: the numbers that lead to it, from level to
    level. -/
inductive Lies : List Tree → List Nat → Tree → Prop where
  | here {trees : List Tree} {i : Nat} {t : Tree} (ht : trees[i]? = some t) : Lies trees [i] t
  | inside {trees : List Tree} {i : Nat} {t s : Tree} {way : List Nat} (ht : trees[i]? = some t)
      (hs : Lies t.children way s) : Lies trees (i :: way) s

/-- A place where a module is named: the way to the statement, and the number of the module in
    it. -/
structure ImportPlace where
  way : List Nat
  number : Nat

/-- One place comes before another: on a higher level, or further left on the same level, or further
    left in the same statement. -/
def ImportPlace.Before (p q : ImportPlace) : Prop :=
  List.Shortlex (· < ·) p.way q.way ∨ p.way = q.way ∧ p.number < q.number

/-- Some trees import a module at a place. -/
def ImportedAt (trees : List Tree) (p : ImportPlace) (name : String) : Prop :=
  ∃ t, Lies trees p.way t ∧ t.NamesModule p.number name

/-- A module is imported just in case there is a place where it is. -/
theorem exists_importedAt_iff {trees : List Tree} {name : String} :
    (∃ p, ImportedAt trees p name) ↔ ∃ t ∈ trees, t.Imports name := by
  constructor
  · rintro ⟨⟨way, k⟩, s, hs, hk⟩
    dsimp only at hs hk
    induction hs with
    | here ht => exact ⟨_, List.mem_of_getElem? ht, .named hk⟩
    | inside ht _ ih =>
        obtain ⟨u, hu, himports⟩ := ih hk
        exact ⟨_, List.mem_of_getElem? ht, .inside (Tree.mem_children_iff.1 hu) himports⟩
  · rintro ⟨t, ht, h⟩
    induction h generalizing trees with
    | @named t k hk =>
        obtain ⟨i, hi⟩ := List.mem_iff_getElem?.1 ht
        exact ⟨⟨[i], k⟩, t, .here hi, hk⟩
    | inside hs _ ih =>
        obtain ⟨i, hi⟩ := List.mem_iff_getElem?.1 ht
        obtain ⟨p, u, hu, hk⟩ := ih (Tree.mem_children_iff.2 hs)
        exact ⟨⟨i :: p.way, p.number⟩, u, .inside hi hu, hk⟩

/-! ## Levels -/

/-- The trees of one level with the ways to them, from left to right. -/
def level : Nat → List Tree → List (List Nat × Tree)
  | 0, trees => trees.zipIdx.map fun p => ([p.2], p.1)
  | n + 1, trees =>
    trees.zipIdx.flatMap fun p => (level n p.1.children).map fun q => (p.2 :: q.1, q.2)

/-- The trees of a level are those with a way of its length. -/
theorem mem_level_iff {n : Nat} {trees : List Tree} {way : List Nat} {t : Tree} :
    (way, t) ∈ level n trees ↔ Lies trees way t ∧ way.length = n + 1 := by
  induction n generalizing trees way with
  | zero =>
      rw [level, List.mem_map]
      constructor
      · rintro ⟨p, hp, heq⟩
        cases heq
        exact ⟨.here (List.mem_zipIdx_iff_getElem?.1 hp), rfl⟩
      · rintro ⟨h, hlength⟩
        cases h with
        | here ht => exact ⟨(t, _), List.mem_zipIdx_iff_getElem?.2 ht, rfl⟩
        | inside ht hs => cases hs <;> simp at hlength
  | succ n ih =>
      rw [level, List.mem_flatMap]
      constructor
      · rintro ⟨p, hp, hmem⟩
        obtain ⟨⟨rest, s⟩, hs, heq⟩ := List.mem_map.1 hmem
        cases heq
        obtain ⟨hlies, hlength⟩ := ih.1 hs
        exact ⟨.inside (List.mem_zipIdx_iff_getElem?.1 hp) hlies, by simp [hlength]⟩
      · rintro ⟨h, hlength⟩
        cases h with
        | here ht => simp at hlength
        | @inside _ i s _ rest ht hs =>
            have hrest : rest.length = n + 1 := by simpa using hlength
            exact ⟨(s, i), List.mem_zipIdx_iff_getElem?.2 ht,
              List.mem_map.2 ⟨(rest, t), ih.2 ⟨hs, hrest⟩, rfl⟩⟩

theorem zipIdx_pairwise {α : Type} (l : List α) : l.zipIdx.Pairwise fun p q => p.2 < q.2 := by
  rw [List.pairwise_iff_getElem]
  intro i j hi hj hij
  simpa using hij

/-- A level goes from left to right. -/
theorem level_pairwise (n : Nat) (trees : List Tree) :
    (level n trees).Pairwise fun p q => List.Lex (· < ·) p.1 q.1 := by
  induction n generalizing trees with
  | zero => exact List.pairwise_map.2 ((zipIdx_pairwise trees).imp .rel)
  | succ n ih =>
      rw [level, List.pairwise_flatMap]
      constructor
      · exact fun p _ => List.pairwise_map.2 ((ih p.1.children).imp .cons)
      · refine (zipIdx_pairwise trees).imp fun hlt x hx y hy => ?_
        obtain ⟨x, -, rfl⟩ := List.mem_map.1 hx
        obtain ⟨y, -, rfl⟩ := List.mem_map.1 hy
        exact .rel hlt

theorem map_snd_level_zero (trees : List Tree) : (level 0 trees).map Prod.snd = trees := by
  rw [level, List.map_map]
  exact List.zipIdx_map_fst 0 trees

/-- The trees of the next level are those of this level inside the trees, one after the other. -/
theorem map_snd_level_succ (n : Nat) (trees : List Tree) :
    (level (n + 1) trees).map Prod.snd
      = trees.flatMap fun t => (level n t.children).map Prod.snd := by
  conv_rhs => rw [← List.zipIdx_map_fst 0 trees, List.flatMap_map]
  rw [level, List.map_flatMap]
  congr 1
  funext p
  rw [List.map_map]
  rfl

theorem map_snd_level_children (n : Nat) (trees : List Tree) :
    (level n (trees.flatMap Tree.children)).map Prod.snd = (level (n + 1) trees).map Prod.snd := by
  cases n with
  | zero => simp only [map_snd_level_succ, map_snd_level_zero]
  | succ n => simp only [map_snd_level_succ, List.flatMap_assoc]

/-! ## The walk -/

/-- All trees inside some trees with the ways to them, level by level. -/
def ways (trees : List Tree) : List (List Nat × Tree) :=
  (List.range (depths trees)).flatMap fun n => level n trees

theorem levels_eq (n : Nat) (trees : List Tree) :
    levels n trees = (List.range n).flatMap fun k => (level k trees).map Prod.snd := by
  induction n generalizing trees with
  | zero => rfl
  | succ n ih =>
      rw [levels, ih, List.range_succ_eq_map, List.flatMap_cons, map_snd_level_zero,
        List.flatMap_map]
      simp only [map_snd_level_children]

theorem map_snd_ways (trees : List Tree) : (ways trees).map Prod.snd = walk trees := by
  rw [ways, walk, levels_eq, List.map_flatMap]

theorem depths_append (trees more : List Tree) :
    depths (trees ++ more) = max (depths trees) (depths more) := by
  induction trees with
  | nil => simp [depths]
  | cons t trees ih => rw [List.cons_append, depths, depths, ih, max_assoc]

theorem Tree.depth_eq (t : Tree) : t.depth = 1 + depths t.children := by
  cases t <;> simp [Tree.depth, children, depths, depths_append, max_assoc]

theorem depth_le_depths {trees : List Tree} {t : Tree} (h : t ∈ trees) :
    t.depth ≤ depths trees := by
  induction trees with
  | nil => cases h
  | cons s trees ih =>
      rw [depths]
      rcases List.mem_cons.1 h with rfl | h
      · exact le_max_left _ _
      · exact (ih h).trans (le_max_right _ _)

/-- No way leads below the deepest level. -/
theorem Lies.length_le {trees : List Tree} {way : List Nat} {t : Tree} (h : Lies trees way t) :
    way.length ≤ depths trees := by
  induction h with
  | here ht =>
      have hdepth := depth_le_depths (List.mem_of_getElem? ht)
      rw [Tree.depth_eq] at hdepth
      simp only [List.length_singleton]
      omega
  | inside ht _ ih =>
      have hdepth := depth_le_depths (List.mem_of_getElem? ht)
      rw [Tree.depth_eq] at hdepth
      rw [List.length_cons]
      omega

theorem Lies.length_pos {trees : List Tree} {way : List Nat} {t : Tree} (h : Lies trees way t) :
    0 < way.length := by
  cases h <;> simp

theorem mem_ways_iff {trees : List Tree} {way : List Nat} {t : Tree} :
    (way, t) ∈ ways trees ↔ Lies trees way t := by
  simp only [ways, List.mem_flatMap, List.mem_range, mem_level_iff]
  refine ⟨fun ⟨n, _, h, _⟩ => h, fun h => ⟨way.length - 1, ?_, h, ?_⟩⟩
  · have hle := h.length_le
    have hpos := h.length_pos
    omega
  · have hpos := h.length_pos
    omega

/-- The walk goes from level to level, and from left to right in each. -/
theorem ways_pairwise (trees : List Tree) :
    (ways trees).Pairwise fun p q => List.Shortlex (· < ·) p.1 q.1 := by
  rw [ways, List.pairwise_flatMap]
  constructor
  · intro n _
    refine (level_pairwise n trees).imp_of_mem fun hp hq hlex => ?_
    obtain ⟨-, hp⟩ := mem_level_iff.1 hp
    obtain ⟨-, hq⟩ := mem_level_iff.1 hq
    exact .of_lex (hp.trans hq.symm) hlex
  · refine List.pairwise_lt_range.imp fun hlt p hp q hq => .of_length_lt ?_
    obtain ⟨-, hp⟩ := mem_level_iff.1 hp
    obtain ⟨-, hq⟩ := mem_level_iff.1 hq
    omega

/-! ## The modules of a statement -/

/-- The modules that a statement itself imports with their numbers. -/
def Tree.numbered : Tree → List (Nat × String)
  | .simple (.importModules modules) =>
    modules.zipIdx.filterMap fun p => p.1.path.head?.map fun name => (p.2, name)
  | .simple (.importFrom _ 0 module _) => module.head?.toList.map fun name => (0, name)
  | _ => []

theorem Tree.map_snd_numbered (t : Tree) : t.numbered.map Prod.snd = t.imported := by
  cases t with
  | simple s =>
      cases s with
      | importModules modules =>
          change _ = modules.filterMap fun m => m.path.head?
          conv_rhs => rw [← List.zipIdx_map_fst 0 modules, List.filterMap_map]
          rw [numbered, List.map_filterMap]
          congr 1
          funext p
          rw [Option.map_map]
          exact Option.map_id'
      | importFrom line n module names =>
          cases n with
          | zero => cases module <;> rfl
          | succ n => rfl
      | other => rfl
  | _ => rfl

theorem Tree.mem_numbered_iff {t : Tree} {k : Nat} {name : String} :
    (k, name) ∈ t.numbered ↔ t.NamesModule k name := by
  have hhead {path : List String} (h : path.head? = some name) : path = name :: path.tail := by
    cases path with
    | nil => cases h
    | cons first more => rw [Option.some.inj h, List.tail_cons]
  constructor
  · intro h
    unfold numbered at h
    split at h
    · obtain ⟨⟨m, i⟩, hm, heq⟩ := List.mem_filterMap.1 h
      obtain ⟨first, hfirst, heq⟩ := Option.map_eq_some_iff.1 heq
      cases heq
      exact .listed (List.mem_zipIdx_iff_getElem?.1 hm) (hhead hfirst)
    · next module _ =>
        obtain ⟨first, hfirst, heq⟩ := List.mem_map.1 h
        cases heq
        rw [hhead (Option.mem_toList.1 hfirst)]
        exact .source
    · cases h
  · intro h
    cases h with
    | listed hm hpath =>
        refine List.mem_filterMap.2 ⟨(_, k), List.mem_zipIdx_iff_getElem?.2 hm, ?_⟩
        rw [hpath]
        rfl
    | source => exact List.mem_singleton.2 rfl

theorem Tree.numbered_pairwise (t : Tree) : t.numbered.Pairwise fun p q => p.1 < q.1 := by
  unfold numbered
  split
  · rw [List.pairwise_filterMap]
    refine (zipIdx_pairwise _).imp fun hlt p hp q hq => ?_
    obtain ⟨_, -, rfl⟩ := Option.map_eq_some_iff.1 hp
    obtain ⟨_, -, rfl⟩ := Option.map_eq_some_iff.1 hq
    exact hlt
  · next module _ => cases module <;> simp
  · exact .nil

/-! ## The places of imports -/

/-- All places where some trees import a module, in their order, with the modules. -/
def importPlaces (trees : List Tree) : List (ImportPlace × String) :=
  (ways trees).flatMap fun p => p.2.numbered.map fun m => (⟨p.1, m.1⟩, m.2)

theorem map_snd_importPlaces (trees : List Tree) :
    (importPlaces trees).map Prod.snd = (walk trees).flatMap Tree.imported := by
  rw [importPlaces, List.map_flatMap, ← map_snd_ways, List.flatMap_map]
  congr 1
  funext p
  rw [List.map_map, ← Tree.map_snd_numbered]
  rfl

theorem mem_importPlaces_iff {trees : List Tree} {p : ImportPlace} {name : String} :
    (p, name) ∈ importPlaces trees ↔ ImportedAt trees p name := by
  simp only [importPlaces, List.mem_flatMap, List.mem_map]
  constructor
  · rintro ⟨⟨way, t⟩, ht, ⟨k, _⟩, hk, heq⟩
    cases heq
    exact ⟨t, mem_ways_iff.1 ht, Tree.mem_numbered_iff.1 hk⟩
  · rintro ⟨t, ht, hk⟩
    exact ⟨(p.way, t), mem_ways_iff.2 ht, (p.number, name), Tree.mem_numbered_iff.2 hk, rfl⟩

theorem importPlaces_pairwise (trees : List Tree) :
    (importPlaces trees).Pairwise fun p q => p.1.Before q.1 := by
  rw [importPlaces, List.pairwise_flatMap]
  constructor
  · intro p _
    exact List.pairwise_map.2 (p.2.numbered_pairwise.imp fun hlt => .inr ⟨rfl, hlt⟩)
  · refine (ways_pairwise trees).imp fun hway x hx y hy => ?_
    obtain ⟨m, -, rfl⟩ := List.mem_map.1 hx
    obtain ⟨m', -, rfl⟩ := List.mem_map.1 hy
    exact .inl hway

/-! ## The first places -/

/-- Names without repetitions, in the order of the first places where they are. -/
structure AreFirst {α : Type} (before : α → α → Prop) (isAt : α → String → Prop)
    (names : List String) : Prop where
  nodup : names.Nodup
  mem_iff : ∀ name, name ∈ names ↔ ∃ a, isAt a name
  inOrder : names.Pairwise fun name later => ∃ a, isAt a name ∧ ∀ b, isAt b later → before a b

section

variable {α : Type} {before : α → α → Prop}

/-- A name is added at a place that comes after all others: the first places stay what they are. -/
theorem AreFirst.addName {isAt : α → String → Prop} {names : List String} {last : α}
    (h : AreFirst before isAt names) (hlast : ∀ a other, isAt a other → before a last)
    (name : String) :
    AreFirst before (fun a other => isAt a other ∨ a = last ∧ other = name)
      (addName names name) := by
  obtain ⟨hnodup, hmem, horder⟩ := h
  have hkept : names.Pairwise fun other later =>
      ∃ a, (isAt a other ∨ a = last ∧ other = name)
        ∧ ∀ b, isAt b later ∨ b = last ∧ later = name → before a b := by
    refine horder.imp fun ⟨a, ha, hfirst⟩ => ⟨a, .inl ha, fun b hb => ?_⟩
    rcases hb with hb | ⟨rfl, -⟩
    · exact hfirst b hb
    · exact hlast a _ ha
  unfold Sandbox.addName
  split
  · next hold =>
      refine ⟨hnodup, fun other => ?_, hkept⟩
      rw [exists_or, ← hmem]
      refine ⟨.inl, fun hother => hother.elim id ?_⟩
      rintro ⟨_, -, rfl⟩
      simpa using hold
  · next hnew =>
      have hnew : name ∉ names := by simpa using hnew
      refine ⟨?_, fun other => ?_, ?_⟩
      · refine List.nodup_append.2 ⟨hnodup, List.nodup_singleton name, ?_⟩
        rintro other hother _ hname rfl
        exact hnew (List.mem_singleton.1 hname ▸ hother)
      · rw [exists_or, ← hmem, List.mem_append, List.mem_singleton]
        simp
      · refine List.pairwise_append.2 ⟨hkept, List.pairwise_singleton _ _, ?_⟩
        intro other hother later hlater
        obtain rfl := List.mem_singleton.1 hlater
        obtain ⟨a, ha⟩ := (hmem other).1 hother
        refine ⟨a, .inl ha, fun b hb => ?_⟩
        rcases hb with hb | ⟨rfl, -⟩
        · exact absurd ((hmem later).2 ⟨b, hb⟩) hnew
        · exact hlast a other ha

/-- Names that are added one after the other, unless they are there already, come in the order of
    their first places. -/
theorem areFirst_foldl_addName (l : List (α × String))
    (h : l.Pairwise fun p q => before p.1 q.1) :
    AreFirst before (fun a name => (a, name) ∈ l) ((l.map Prod.snd).foldl addName []) := by
  induction l using List.reverseRecOn with
  | nil => exact ⟨.nil, by simp, .nil⟩
  | append_singleton l last ih =>
      obtain ⟨hl, -, hlast⟩ := List.pairwise_append.1 h
      have hafter (a : α) (other : String) (ha : (a, other) ∈ l) : before a last.1 :=
        hlast (a, other) ha last List.mem_cons_self
      rw [List.map_append, List.foldl_append]
      simpa [Prod.ext_iff] using (ih hl).addName hafter last.2

end

theorem areFirst_importsOf (trees : List Tree) :
    AreFirst ImportPlace.Before (ImportedAt trees) (importsOf trees) := by
  have h := areFirst_foldl_addName (importPlaces trees) (importPlaces_pairwise trees)
  rw [map_snd_importPlaces] at h
  simp only [mem_importPlaces_iff] at h
  exact h

/-- The modules that code imports are found, each once, and no others are; they come in the order of
    the first places where they are imported, level by level. -/
theorem findImports_inOrder (trees : List Tree) :
    (∀ code, treesOf code = .ok trees → findImports code = .ok (importsOf trees))
      ∧ (importsOf trees).Nodup
      ∧ (∀ name, name ∈ importsOf trees ↔ ∃ t ∈ trees, t.Imports name)
      ∧ (importsOf trees).Pairwise fun name later => ∃ p, ImportedAt trees p name
        ∧ ∀ q, ImportedAt trees q later → p.Before q := by
  obtain ⟨hnodup, hmem, horder⟩ := areFirst_importsOf trees
  refine ⟨fun code hcode => ?_, hnodup, fun name => ?_, horder⟩
  · rw [findImports, hcode]
    rfl
  · rw [hmem, exists_importedAt_iff]

/-- Code that imports modules on three levels. -/
def rescuingCode : String :=
  "try:\n    import a.b\nexcept E:\n    from c import d\nelse:\n    import e, a\nfrom . import f"

theorem findImports_inOrder_rescuing :
    ∃ trees, treesOf rescuingCode = .ok trees ∧ findImports rescuingCode = .ok (importsOf trees)
      ∧ importsOf trees = ["a", "e", "c"]
      ∧ ∃ p, ImportedAt trees p "e" ∧ ∀ q, ImportedAt trees q "c" → p.Before q := by
  have hfound : (findImports rescuingCode).toOption = some ["a", "e", "c"] := by decide +kernel
  cases htrees : treesOf rescuingCode with
  | error f =>
      rw [findImports, htrees] at hfound
      cases hfound
  | ok trees =>
      obtain ⟨hcode, -, -, horder⟩ := findImports_inOrder trees
      have hnames := hcode rescuingCode htrees
      rw [hnames] at hfound
      have hlist : importsOf trees = ["a", "e", "c"] := Option.some.inj hfound
      rw [hlist] at horder
      refine ⟨trees, rfl, hnames, hlist, ?_⟩
      exact List.rel_of_pairwise_cons (List.Pairwise.of_cons horder) List.mem_cons_self

end AgentScript.Sandbox
