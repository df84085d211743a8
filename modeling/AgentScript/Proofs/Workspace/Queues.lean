import AgentScript.Proofs.Run.Intact
import Mathlib.Data.List.Count
import Mathlib.Logic.Function.Basic

set_option autoImplicit false

/-! # Notes as queues

Titles of notes may repeat, and it is always the oldest note of a title that is read, changed or
removed. So the notes of a workspace are a queue of contents for each title (`NoteQueues`), together
with the order in which the titles stand. What a request may be answered with, and what it makes of
the queues, is said for the queues alone (`NoteQueues.Step`). The workspace takes such a step with
every request (`World.answer_queues`), and therefore such steps with any list of requests
(`World.serve_refines_queues`). Files are removed by name, all of them at once
(`World.ForgetsFiles`). -/

namespace AgentScript

/-! ## Queues -/

/-- The titles of some notes, oldest first, and under each title the contents of its notes, oldest
    first. -/
structure NoteQueues where
  titles : List String
  contents : String → List String

namespace NoteQueues

/-- The contents of the notes of a title, oldest first. -/
def contentsOf (notes : List Note) (title : String) : List String :=
  (notes.filter fun n => n.title == title).map Note.content

/-- The queues of a list of notes. -/
def ofNotes (notes : List Note) : NoteQueues :=
  ⟨notes.map Note.title, contentsOf notes⟩

end NoteQueues

/-- A request that neither reads nor writes notes. -/
def Request.sparesNotes : Request → Bool
  | .addNote _ _ | .noteContent _ | .updateNote _ _ | .deleteNote _ => false
  | _ => true

/-- A request to queues of notes, the reply to it, and the queues afterwards. Each request touches
    the queue of its own title only; where a note leaves the queue, it is the first of its title
    that leaves the order of titles. -/
inductive NoteQueues.Step : NoteQueues → Exchange → NoteQueues → Prop where
  | add (s : NoteQueues) (title content : String) :
      Step s ⟨.addNote title content, ()⟩
        ⟨s.titles ++ [title],
          Function.update s.contents title (s.contents title ++ [content])⟩
  | read (s : NoteQueues) (title : String) :
      Step s ⟨.noteContent title, (s.contents title).head?⟩ s
  | update {s : NoteQueues} {title old : String} {others : List String} (content : String)
      (h : s.contents title = old :: others) :
      Step s ⟨.updateNote title content, true⟩
        ⟨s.titles, Function.update s.contents title (content :: others)⟩
  | updateNothing {s : NoteQueues} {title : String} (content : String)
      (h : s.contents title = []) : Step s ⟨.updateNote title content, false⟩ s
  | delete {s : NoteQueues} {title old : String} {others : List String}
      (h : s.contents title = old :: others) :
      Step s ⟨.deleteNote title, true⟩
        ⟨s.titles.erase title, Function.update s.contents title others⟩
  | deleteNothing {s : NoteQueues} {title : String} (h : s.contents title = []) :
      Step s ⟨.deleteNote title, false⟩ s
  | other (s : NoteQueues) {q : Request} (hq : q.sparesNotes) (r : q.Reply) : Step s ⟨q, r⟩ s

/-- Queues of notes may answer a list of requests with these exchanges, and are left so. -/
inductive NoteQueues.Serves : NoteQueues → List Exchange → NoteQueues → Prop where
  | nil (s : NoteQueues) : Serves s [] s
  | cons {s between after : NoteQueues} {e : Exchange} {rest : List Exchange}
      (hstep : s.Step e between) (hrest : between.Serves rest after) : Serves s (e :: rest) after

namespace NoteQueues

/-! ## The queues of notes -/

theorem contentsOf_cons (n : Note) (notes : List Note) :
    contentsOf (n :: notes)
      = Function.update (contentsOf notes) n.title (n.content :: contentsOf notes n.title) := by
  funext title
  by_cases h : title = n.title
  · subst h
    simp [contentsOf]
  · rw [Function.update_of_ne h]
    simp [contentsOf, Ne.symm h]

theorem contentsOf_append (notes : List Note) (title content : String) :
    contentsOf (notes ++ [⟨title, content⟩])
      = Function.update (contentsOf notes) title (contentsOf notes title ++ [content]) := by
  funext other
  by_cases h : other = title
  · subst h
    simp [contentsOf]
  · rw [Function.update_of_ne h]
    simp [contentsOf, Ne.symm h]

/-- The note that is found is the first in the queue of its title. -/
theorem head?_contentsOf (notes : List Note) (title : String) :
    (contentsOf notes title).head? = (notes.find? fun n => n.title == title).map Note.content := by
  rw [contentsOf, List.head?_map, List.head?_filter]

theorem any_title (notes : List Note) (title : String) :
    (notes.any fun n => n.title == title) = !(contentsOf notes title).isEmpty := by
  induction notes with
  | nil => rfl
  | cons n notes ih =>
      rw [List.any_cons, contentsOf_cons, ih]
      by_cases h : title = n.title
      · simp [h]
      · simp [Function.update_of_ne h, Ne.symm h]

/-- Nothing is lost: the titles tell where the contents of each queue stand. -/
theorem ofNotes_injective : Function.Injective ofNotes := by
  intro notes
  induction notes with
  | nil =>
      intro notes' h
      have htitles : [] = notes'.map Note.title := congrArg titles h
      exact (List.map_eq_nil_iff.1 htitles.symm).symm
  | cons n notes ih =>
      intro notes' h
      cases notes' with
      | nil => simp [ofNotes] at h
      | cons n' notes' =>
          have htitles : (n :: notes).map Note.title = (n' :: notes').map Note.title :=
            congrArg titles h
          have hcontents : contentsOf (n :: notes) = contentsOf (n' :: notes') :=
            congrArg contents h
          rw [List.map_cons, List.map_cons, List.cons.injEq] at htitles
          obtain ⟨htitle, htitles⟩ := htitles
          rw [contentsOf_cons, contentsOf_cons, ← htitle] at hcontents
          have hqueue := congrFun hcontents n.title
          rw [Function.update_self, Function.update_self, List.cons.injEq] at hqueue
          obtain ⟨hcontent, hqueue⟩ := hqueue
          have hrest : contentsOf notes = contentsOf notes' := by
            funext title
            by_cases hsame : title = n.title
            · rw [hsame, hqueue]
            · have hother := congrFun hcontents title
              rwa [Function.update_of_ne hsame, Function.update_of_ne hsame] at hother
          have hnotes : notes = notes' := ih (by rw [ofNotes, ofNotes, htitles, hrest])
          have hn : n = n' := by
            cases n
            cases n'
            simp_all
          rw [hn, hnotes]

/-! ## Changing and removing the first note of a title -/

variable {notes : List Note} {title : String}

/-- What happens to a queue behind a note of another title. -/
theorem contentsOf_cons_of_ne {n : Note} {changed : List Note} {queue : List String}
    (hn : n.title ≠ title)
    (h : contentsOf changed = Function.update (contentsOf notes) title queue) :
    contentsOf (n :: changed) = Function.update (contentsOf (n :: notes)) title queue := by
  rw [contentsOf_cons, contentsOf_cons, h, Function.update_of_ne hn, Function.update_comm hn]

theorem titles_changeFirst (content : String) :
    (Workspace.changeFirst (fun n => n.title == title) (fun n => { n with content := content })
      notes).map Note.title = notes.map Note.title := by
  induction notes with
  | nil => rfl
  | cons n notes ih =>
      rw [Workspace.changeFirst]
      split
      · simp
      · rw [List.map_cons, List.map_cons, ih]

theorem titles_eraseP :
    (notes.eraseP fun n => n.title == title).map Note.title
      = (notes.map Note.title).erase title := by
  induction notes with
  | nil => rfl
  | cons n notes ih =>
      by_cases h : n.title = title
      · simp [h]
      · rw [List.map_cons, List.erase_cons_tail (by simpa using h),
          List.eraseP_cons_of_neg (by simpa using h), List.map_cons, ih]

theorem contentsOf_changeFirst {old : String} {others : List String} (content : String)
    (h : contentsOf notes title = old :: others) :
    contentsOf (Workspace.changeFirst (fun n => n.title == title)
        (fun n => { n with content := content }) notes)
      = Function.update (contentsOf notes) title (content :: others) := by
  induction notes with
  | nil => cases h
  | cons n notes ih =>
      rw [Workspace.changeFirst]
      by_cases hn : n.title = title
      · subst hn
        rw [contentsOf_cons, Function.update_self, List.cons.injEq] at h
        rw [if_pos (beq_self_eq_true _), contentsOf_cons, contentsOf_cons n, Function.update_idem,
          h.2]
      · rw [if_neg (by simpa using hn)]
        refine contentsOf_cons_of_ne hn (ih ?_)
        rwa [contentsOf_cons, Function.update_of_ne (Ne.symm hn)] at h

theorem contentsOf_eraseP {old : String} {others : List String}
    (h : contentsOf notes title = old :: others) :
    contentsOf (notes.eraseP fun n => n.title == title)
      = Function.update (contentsOf notes) title others := by
  induction notes with
  | nil => cases h
  | cons n notes ih =>
      by_cases hn : n.title = title
      · subst hn
        rw [contentsOf_cons, Function.update_self, List.cons.injEq] at h
        rw [List.eraseP_cons_of_pos (by simp), contentsOf_cons, Function.update_idem,
          ← h.2, Function.update_eq_self]
      · rw [List.eraseP_cons_of_neg (by simpa using hn)]
        refine contentsOf_cons_of_ne hn (ih ?_)
        rwa [contentsOf_cons, Function.update_of_ne (Ne.symm hn)] at h

theorem ofNotes_append (notes : List Note) (title content : String) :
    ofNotes (notes ++ [⟨title, content⟩])
      = ⟨notes.map Note.title ++ [title],
        Function.update (contentsOf notes) title (contentsOf notes title ++ [content])⟩ := by
  rw [ofNotes, contentsOf_append, List.map_append]
  rfl

theorem ofNotes_changeFirst {old : String} {others : List String} (content : String)
    (h : contentsOf notes title = old :: others) :
    ofNotes (Workspace.changeFirst (fun n => n.title == title)
        (fun n => { n with content := content }) notes)
      = ⟨notes.map Note.title, Function.update (contentsOf notes) title (content :: others)⟩ := by
  rw [ofNotes, titles_changeFirst, contentsOf_changeFirst content h]

theorem ofNotes_eraseP {old : String} {others : List String}
    (h : contentsOf notes title = old :: others) :
    ofNotes (notes.eraseP fun n => n.title == title)
      = ⟨(notes.map Note.title).erase title,
        Function.update (contentsOf notes) title others⟩ := by
  rw [ofNotes, titles_eraseP, contentsOf_eraseP h]

end NoteQueues

/-- Looking for the note that was found, by comparing whole notes, leads to that note: an equal one
    in front of it would have been found. -/
theorem Workspace.notes_deleteNote_eq_erase {w : Workspace} {title : String} {n : Note}
    (h : w.findNote title = some n) : (w.deleteNote title).2.notes = w.notes.erase n := by
  change w.notes.eraseP (fun n => n.title == title) = w.notes.erase n
  replace h : w.notes.find? (fun n => n.title == title) = some n := h
  generalize w.notes = notes at h ⊢
  induction notes with
  | nil => rfl
  | cons first rest ih =>
      by_cases hfirst : first.title = title
      · rw [List.find?_cons_of_pos (by simpa using hfirst), Option.some.injEq] at h
        subst h
        rw [List.eraseP_cons_of_pos (by simpa using hfirst), List.erase_cons_head]
      · rw [List.find?_cons_of_neg (by simpa using hfirst)] at h
        have hne : first ≠ n := by
          rintro rfl
          exact hfirst (by simpa using List.find?_some h)
        rw [List.eraseP_cons_of_neg (by simpa using hfirst),
          List.erase_cons_tail (by simpa using hne), ih h]

/-! ## Requests to a workspace -/

namespace World

variable (c : Collaborators) (w : World)

/-- Every request is answered as the queues would answer it, and makes of them what they would
    become. -/
theorem answer_queues (q : Request) :
    (NoteQueues.ofNotes w.workspace.notes).Step ⟨q, (w.answer c q).1⟩
      (.ofNotes (w.answer c q).2.workspace.notes) := by
  cases q with
  | addNote title content =>
      have hafter := NoteQueues.ofNotes_append w.workspace.notes title content
      exact hafter ▸ .add (.ofNotes w.workspace.notes) title content
  | noteContent title =>
      have hreply : (w.answer c (.noteContent title)).1
          = (NoteQueues.contentsOf w.workspace.notes title).head? :=
        (NoteQueues.head?_contentsOf w.workspace.notes title).symm
      rw [hreply]
      exact .read (.ofNotes w.workspace.notes) title
  | updateNote title content =>
      have hreply : (w.answer c (.updateNote title content)).1
          = !(NoteQueues.contentsOf w.workspace.notes title).isEmpty :=
        NoteQueues.any_title w.workspace.notes title
      cases hqueue : NoteQueues.contentsOf w.workspace.notes title with
      | nil =>
          rw [hqueue] at hreply
          have hworkspace : (w.answer c (.updateNote title content)).2.workspace = w.workspace :=
            Workspace.updateNote_eq_self hreply
          rw [hreply, hworkspace]
          exact .updateNothing content hqueue
      | cons old others =>
          rw [hqueue] at hreply
          rw [hreply]
          exact NoteQueues.ofNotes_changeFirst content hqueue ▸ .update content hqueue
  | deleteNote title =>
      have hreply : (w.answer c (.deleteNote title)).1
          = !(NoteQueues.contentsOf w.workspace.notes title).isEmpty :=
        NoteQueues.any_title w.workspace.notes title
      cases hqueue : NoteQueues.contentsOf w.workspace.notes title with
      | nil =>
          rw [hqueue] at hreply
          have hworkspace : (w.answer c (.deleteNote title)).2.workspace = w.workspace :=
            Workspace.deleteNote_eq_self hreply
          rw [hreply, hworkspace]
          exact .deleteNothing hqueue
      | cons old others =>
          rw [hqueue] at hreply
          rw [hreply]
          exact NoteQueues.ofNotes_eraseP hqueue ▸ .delete hqueue
  | _ => exact .other _ rfl _

/-- Answer a list of requests, one after the other: the exchanges, and the world after them. -/
def serve (c : Collaborators) (w : World) : List Request → List Exchange × World
  | [] => ([], w)
  | q :: rest =>
    let (reply, between) := w.answer c q
    let (others, after) := between.serve c rest
    (⟨q, reply⟩ :: others, after)

theorem serve_queues (requests : List Request) :
    (NoteQueues.ofNotes w.workspace.notes).Serves (w.serve c requests).1
      (.ofNotes (w.serve c requests).2.workspace.notes) := by
  induction requests generalizing w with
  | nil => exact .nil _
  | cons q rest ih => exact .cons (w.answer_queues c q) (ih (w.answer c q).2)

end World

/-! ## Files -/

/-- The name of the file that a request saves. -/
def Request.filed? : Request → Option String
  | .addFile file => some file.name
  | _ => none

/-- A list of files has lost those of a name: none of them is left, there are as many of all others
    as before, and they stand as they stood. -/
structure LosesFiles (name : String) (before after : List UserFile) : Prop where
  gone : ∀ f ∈ after, f.name ≠ name
  others : ∀ f, f.name ≠ name → after.count f = before.count f
  order : after.Sublist before

/-- What a world makes of the request to remove the files of a name. -/
structure World.Forgets (c : Collaborators) (name : String) (before after : World) : Prop where
  files : LosesFiles name before.workspace.files after.workspace.files
  /-- Nothing else in the workspace changes. -/
  workspace : after.workspace = { before.workspace with files := after.workspace.files }
  /-- Removing the files again changes nothing. -/
  idempotent : (after.answer c (.removeFiles name)).2.workspace = after.workspace
  /-- Until a file of the name is saved none is found, whatever else is asked for. -/
  hidden : ∀ requests, (∀ q ∈ requests, q.filed? ≠ some name) →
    ((after.serve c requests).2.answer c (.findFile name)).1 = none
  /-- The file that is saved next under the name is the one that is found. -/
  refound : ∀ requests, (∀ q ∈ requests, q.filed? ≠ some name) → ∀ f : UserFile, f.name = name →
    (((after.serve c requests).2.answer c (.addFile f)).2.answer c (.findFile name)).1 = some f

namespace World

variable (c : Collaborators) (w : World)

/-- A request brings no file but the one that it saves. -/
theorem answer_files_subset (q : Request) {f : UserFile}
    (hf : f ∈ (w.answer c q).2.workspace.files) :
    f ∈ w.workspace.files ∨ q.filed? = some f.name := by
  cases q with
  | addFile file =>
      have hmem : f ∈ w.workspace.files ++ [file] := hf
      rcases List.mem_append.1 hmem with hold | hnew
      · exact .inl hold
      · rw [List.mem_singleton.1 hnew]
        exact .inr rfl
  | removeFiles name => exact .inl (List.mem_filter.1 hf).1
  | _ => exact .inl hf

/-- Where no file of a name is kept, none is kept until one is saved. -/
theorem serve_files_ne {name : String} (requests : List Request)
    (hrequests : ∀ q ∈ requests, q.filed? ≠ some name)
    (hw : ∀ f ∈ w.workspace.files, f.name ≠ name) :
    ∀ f ∈ (w.serve c requests).2.workspace.files, f.name ≠ name := by
  induction requests generalizing w with
  | nil => exact hw
  | cons q rest ih =>
      obtain ⟨hq, hrest⟩ := List.forall_mem_cons.1 hrequests
      refine ih (w.answer c q).2 hrest fun f hf hname => ?_
      rcases w.answer_files_subset c q hf with hold | hnew
      · exact hw f hold hname
      · exact hq (hname ▸ hnew)

theorem losesFiles_removeFiles (name : String) :
    LosesFiles name w.workspace.files (w.workspace.removeFiles name).2.files where
  gone f hf := by
    have hkept := (List.mem_filter.1 hf).2
    simpa using hkept
  others f hf := List.count_filter (by simpa using hf)
  order := List.filter_sublist

theorem find?_eq_none_of_ne {files : List UserFile} {name : String}
    (h : ∀ f ∈ files, f.name ≠ name) : (files.find? fun f => f.name == name) = none := by
  rw [List.find?_eq_none]
  intro f hf
  simpa using h f hf

/-- Removing the files of a name hides the name until a file of it is saved. -/
theorem forgets_removeFiles (name : String) :
    w.Forgets c name (w.answer c (.removeFiles name)).2 := by
  have hfiles := w.losesFiles_removeFiles name
  have hnone (requests : List Request) (hrequests : ∀ q ∈ requests, q.filed? ≠ some name) :=
    find?_eq_none_of_ne
      (serve_files_ne c (w.answer c (.removeFiles name)).2 requests hrequests hfiles.gone)
  refine ⟨hfiles, rfl, ?_, hnone, fun requests hrequests f hf => ?_⟩
  · have hagain : ((w.workspace.files.filter fun f => !(f.name == name)).filter
          fun f => !(f.name == name)) = w.workspace.files.filter fun f => !(f.name == name) := by
      simp
    exact congrArg (fun files => { w.workspace with files := files }) hagain
  · let v := (World.serve c (w.answer c (.removeFiles name)).2 requests).2
    have happend : ((v.workspace.files ++ [f]).find? fun f => f.name == name) = some f := by
      rw [List.find?_append, hnone requests hrequests, Option.none_or,
        List.find?_cons_of_pos (by simpa using hf)]
    exact happend

/-! ## Any requests to any workspace -/

/-- The note store is a queue of contents for each title. The queues, with the order of the titles,
    tell all about the notes. Whatever list of requests a workspace answers, it answers as the
    queues do, and is left with the queues that they become; a note is removed as the note that was
    found; and files are removed by name. -/
theorem serve_refines_queues (requests : List Request) :
    Function.Injective NoteQueues.ofNotes
      ∧ (NoteQueues.ofNotes w.workspace.notes).Serves (w.serve c requests).1
        (.ofNotes (w.serve c requests).2.workspace.notes)
      ∧ (∀ title n, (w.serve c requests).2.workspace.findNote title = some n →
        ((w.serve c requests).2.workspace.deleteNote title).2.notes
          = (w.serve c requests).2.workspace.notes.erase n)
      ∧ ∀ name, (w.serve c requests).2.Forgets c name
        ((w.serve c requests).2.answer c (.removeFiles name)).2 :=
  ⟨NoteQueues.ofNotes_injective, w.serve_queues c requests,
    fun _ _ h => Workspace.notes_deleteNote_eq_erase h,
    fun name => (w.serve c requests).2.forgets_removeFiles c name⟩

/-- A workspace in which two notes have one title and two files one name. -/
def twins : Workspace where
  notes := [⟨"a", "1"⟩, ⟨"b", "2"⟩, ⟨"a", "3"⟩]
  files := [⟨"f", "u", "binary", none⟩, ⟨"g", "v", "binary", none⟩, ⟨"f", "w", "binary", none⟩]

/-- The requests that change the older of two notes and then remove it. -/
def twinRequests : List Request :=
  [.updateNote "a" "4", .noteContent "a", .deleteNote "a", .noteContent "a"]

theorem serve_refines_queues_twins :
    ((initial twins 0).serve (.replying fun prompt _ => .ok prompt)
        twinRequests).2.workspace.findNote "a" = some ⟨"a", "3"⟩
      ∧ (((initial twins 0).serve (.replying fun prompt _ => .ok prompt)
        twinRequests).2.workspace.deleteNote "a").2.notes
        = [⟨"b", "2"⟩, ⟨"a", "3"⟩].erase ⟨"a", "3"⟩
      ∧ (∀ q ∈ [Request.addFile ⟨"g", "x", "binary", none⟩], q.filed? ≠ some "f")
      ∧ ((((initial twins 0).serve (.replying fun prompt _ => .ok prompt) twinRequests).2.answer
          (.replying fun prompt _ => .ok prompt) (.removeFiles "f")).2.serve
        (.replying fun prompt _ => .ok prompt)
          [.addFile ⟨"g", "x", "binary", none⟩]).2.workspace.findFile "f" = none := by
  obtain ⟨-, -, herase, hforgets⟩ :=
    (initial twins 0).serve_refines_queues (.replying fun prompt _ => .ok prompt) twinRequests
  have hfound : ((initial twins 0).serve (.replying fun prompt _ => .ok prompt)
      twinRequests).2.workspace.findNote "a" = some ⟨"a", "3"⟩ := by rfl
  have hother : ∀ q ∈ [Request.addFile ⟨"g", "x", "binary", none⟩], q.filed? ≠ some "f" :=
    List.forall_mem_singleton.2 (by decide)
  exact ⟨hfound, herase "a" _ hfound, hother, (hforgets "f").hidden _ hother⟩

end World

end AgentScript
