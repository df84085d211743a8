import AgentScript.Proofs.Run.Requests
import AgentScript.Proofs.Run.World

set_option autoImplicit false

/-! # Files that are kept

Names of files may repeat. A file that is saved comes after all others, and the one that is found
under a name is the oldest. So whatever is asked of a workspace, the file that is found under a name
stays the same until the files of that name are removed (`World.answer_findFile`,
`World.play_findFile`). What a command saves is therefore read back if no other file of its name is
kept already (`World.play_saveFile_keepsUrl`). -/

namespace AgentScript

/-- A command that removes the files of a name when it is carried out in a state. -/
def Command.RemovesFile (name : String) (run : Run) : Command → Prop
  | .deleteFile text => run.context.resolve text = .ok name
  | _ => False

namespace World

variable {α : Type} (c : Collaborators) (w : World)

/-- Carry out commands one after the other, each in a state of its own. -/
def carryOut (c : Collaborators) (w : World) : List (Run × Command) → World
  | [] => w
  | (run, command) :: further => (w.play c ((RunM.dispatch command).from run)).2.carryOut c further

/-- Whoever asks for the file of a name gets this url, now and after any commands that do not remove
    the files of the name. -/
def KeepsUrl (c : Collaborators) (w : World) (name url : String) : Prop :=
  ∀ further : List (Run × Command), (∀ p ∈ further, ¬ p.2.RemovesFile name p.1) →
    ∀ (run : Run) (text : String), run.context.resolve text = .ok name →
      ((w.carryOut c further).play c ((RunM.dispatch (.getFile text)).from run)).1
        = (.ok (), { run with lastResult := .str url })

/-! ## The file that is found -/

variable {w} {name : String} {file : UserFile}

/-- No request changes which file is found, unless it removes the file. -/
theorem answer_findFile (hfile : w.workspace.findFile name = some file) {q : Request}
    (hq : q ≠ .removeFiles name) : (w.answer c q).2.workspace.findFile name = some file := by
  cases q with
  | addFile added =>
      change (w.workspace.files ++ [added]).find? (fun f => f.name == name) = some file
      change w.workspace.files.find? (fun f => f.name == name) = some file at hfile
      rw [List.find?_append, hfile, Option.some_or]
  | removeFiles other =>
      have hother : other ≠ name := fun heq => hq (heq ▸ rfl)
      change (w.workspace.files.filter fun f => !(f.name == other)).find? (fun f => f.name == name)
        = some file
      rw [List.find?_filter, ← hfile]
      congr 1
      funext f
      by_cases hf : f.name = name
      · simp [hf, hother.symm]
      · simp [hf]
  | _ => exact hfile

theorem play_findFile (hfile : w.workspace.findFile name = some file) {d : Dialogue α}
    {ends : α → Prop} (hd : d.Keeps (fun _ => True) (fun q => q ≠ .removeFiles name) ends) :
    (w.play c d).2.workspace.findFile name = some file := by
  induction d generalizing w with
  | done a => exact hfile
  | ask q next ih =>
      obtain ⟨hq, hnext⟩ := hd
      exact ih _ (answer_findFile c hfile hq) (hnext _ (q.failsIn_all _))

end World

/-- What puts no request to remove the files of a name. -/
def sparingFile (name : String) : Footprint :=
  ⟨fun q => q ≠ .removeFiles name, fun _ _ => True⟩

theorem covers_sparingFile (name : String) : (sparingFile name).Covers fun _ => True where
  own _ _ := trivial
  trace _ := nofun
  refl _ := trivial
  trans _ _ := trivial

/-- A command puts the request to remove files of a name only where it removes them. -/
theorem Command.dispatch_sparesFile {name : String} {command : Command} {run : Run}
    (h : ¬ command.RemovesFile name run) :
    ((RunM.dispatch command).from run).Keeps (fun _ => True) (sparingFile name).asks
      fun _ => True := by
  by_cases hdelete : ∃ text, command = .deleteFile text
  · obtain ⟨text, rfl⟩ := hdelete
    rw [RunM.dispatch, RunM.from_trace_bind]
    refine ⟨nofun, fun _ _ => ?_⟩
    cases hresolve : run.context.resolve text with
    | error f =>
        rw [RunM.from_resolve_bind_error hresolve]
        trivial
    | ok other =>
        rw [RunM.from_resolve_bind_ok hresolve]
        refine ⟨fun heq => h ?_, fun _ _ => trivial⟩
        rw [Command.RemovesFile, hresolve, Request.removeFiles.inj heq]
  · have hwithin : command.footprint.Within (sparingFile name) := by
      refine ⟨fun q hq heq => ?_, fun _ _ _ => trivial⟩
      subst heq
      cases command with
      | deleteFile text => exact hdelete ⟨text, rfl⟩
      | _ => cases hq
    exact (RunM.dispatch_keeps (covers_sparingFile name) command hwithin run).mono
      fun _ _ => trivial

namespace World

variable (c : Collaborators) {w : World} {name : String} {file : UserFile}

theorem carryOut_findFile (hfile : w.workspace.findFile name = some file)
    {further : List (Run × Command)} (hfurther : ∀ p ∈ further, ¬ p.2.RemovesFile name p.1) :
    (w.carryOut c further).workspace.findFile name = some file := by
  induction further generalizing w with
  | nil => exact hfile
  | cons p further ih =>
      obtain ⟨hp, hfurther⟩ := List.forall_mem_cons.1 hfurther
      exact ih (play_findFile c hfile (Command.dispatch_sparesFile hp)) hfurther

/-- The url of the file that is found is what one gets. -/
theorem play_getFile (hfile : w.workspace.findFile name = some file) {run : Run} {text : String}
    (htext : run.context.resolve text = .ok name) :
    (w.play c ((RunM.dispatch (.getFile text)).from run)).1
      = (.ok (), { run with lastResult := .str file.url }) := by
  rw [RunM.dispatch, RunM.from_trace_bind, play_ask, RunM.from_resolve_bind_ok htext,
    RunM.from_request_bind, play_ask]
  generalize hbetween : (w.answer c (.trace _)).2 = between
  have hfound : (between.answer c (.findFile name)).1 = some file := by
    subst hbetween
    exact hfile
  rw [hfound]
  rfl

theorem keepsUrl_of_findFile (hfile : w.workspace.findFile name = some file) :
    w.KeepsUrl c name file.url :=
  fun _ hfurther _ _ htext => play_getFile c (carryOut_findFile c hfile hfurther) htext

/-- What one gets at once tells the url. -/
theorem KeepsUrl.unique {url url' : String} (h : w.KeepsUrl c name url)
    (h' : w.KeepsUrl c name url') {run : Run} {text : String}
    (htext : run.context.resolve text = .ok name) : url = url' := by
  have hgets := h [] (List.forall_mem_nil _) run text htext
  rw [h' [] (List.forall_mem_nil _) run text htext] at hgets
  exact (Value.str.inj (congrArg (fun result => result.2.lastResult) hgets)).symm

/-! ## Saving a file -/

theorem findFile_addFile (workspace : Workspace) (file : UserFile) :
    (workspace.addFile file).findFile file.name
      = some ((workspace.findFile file.name).getD file) := by
  change (workspace.files ++ [file]).find? (fun f => f.name == file.name) = _
  rw [List.find?_append, List.find?_cons_of_pos (by simp)]
  change (workspace.findFile file.name).or (some file) = _
  cases workspace.findFile file.name <;> rfl

variable {run : Run} {fileName url : Option String} {n u : String}

/-- A file is saved under any name that is not empty. -/
theorem play_saveFile (w : World) (hname : run.context.resolve? fileName = .ok n)
    (hurl : run.context.resolve? url = .ok u) (hn : n ≠ "") (hu : u ≠ "") :
    ∃ saved, w.play c ((RunM.dispatch (.saveFile fileName url)).from run)
        = ((.ok (), { run with lastResult := .str "File Saved" }), saved)
      ∧ saved.workspace = w.workspace.addFile { name := n, url := u } := by
  have hrequire : RunM.require (Command.saveFile fileName url).name (n != "" && u != "") .fileIncomplete = pure () :=
    if_pos (by simp [hn, hu])
  rw [RunM.dispatch, RunM.from_trace_bind, play_ask, RunM.from_resolve?_bind_ok hname,
    RunM.from_resolve?_bind_ok hurl, hrequire, pure_bind]
  exact ⟨_, rfl, rfl⟩

/-- A file that is saved comes after those that are kept already. Whoever asks for its name gets the
    url of the oldest of them, and goes on to get it until the files of the name are removed; so one
    gets what was saved just in case there was no other url under the name before. -/
theorem play_saveFile_keepsUrl (w : World) (hname : run.context.resolve? fileName = .ok n)
    (hurl : run.context.resolve? url = .ok u) (hn : n ≠ "") (hu : u ≠ "") :
    ∃ saved, w.play c ((RunM.dispatch (.saveFile fileName url)).from run)
        = ((.ok (), { run with lastResult := .str "File Saved" }), saved)
      ∧ saved.workspace = w.workspace.addFile { name := n, url := u }
      ∧ saved.KeepsUrl c n (((w.workspace.findFile n).map UserFile.url).getD u)
      ∧ (saved.KeepsUrl c n u ↔ ∀ f, w.workspace.findFile n = some f → f.url = u) := by
  obtain ⟨saved, hplay, hworkspace⟩ := play_saveFile c w hname hurl hn hu
  have hfound : saved.workspace.findFile n
      = some ((w.workspace.findFile n).getD { name := n, url := u }) :=
    hworkspace ▸ findFile_addFile w.workspace { name := n, url := u }
  have hkeeps := keepsUrl_of_findFile c hfound
  refine ⟨saved, hplay, hworkspace, ?_⟩
  cases hold : w.workspace.findFile n with
  | none =>
      rw [hold] at hkeeps
      exact ⟨hkeeps, iff_of_true hkeeps nofun⟩
  | some f =>
      rw [hold] at hkeeps
      refine ⟨hkeeps, fun hnew f' hf' => ?_, fun h => h f rfl ▸ hkeeps⟩
      cases hf'
      exact hkeeps.unique c hnew hname

/-- A world in which a file is kept. -/
def keepingFile (name url : String) : World :=
  initial { files := [{ name := name, url := url }] } 0

/-- A file of another name is kept, and the commands that follow save a second file of the name and
    remove the other one. -/
theorem play_saveFile_keepsUrl_second :
    (Run.start (.str "a")).context.resolve? (some "[prompt]") = .ok "a"
      ∧ (Run.start (.str "a")).context.resolve? (some "u") = .ok "u"
      ∧ (∃ saved, (keepingFile "b" "v").play (.replying fun prompt _ => .ok prompt)
            ((RunM.dispatch (.saveFile (some "[prompt]") (some "u"))).from (.start (.str "a")))
          = ((.ok (), { Run.start (.str "a") with lastResult := .str "File Saved" }), saved)
        ∧ ((saved.carryOut (.replying fun prompt _ => .ok prompt)
              [(.start (.str ""), .saveFile (some "a") (some "w")),
                (.start (.str ""), .deleteFile "b")]).play
            (.replying fun prompt _ => .ok prompt)
            ((RunM.dispatch (.getFile "[prompt]")).from (.start (.str "a")))).1
          = (.ok (), { Run.start (.str "a") with lastResult := .str "u" })) := by
  have hname : (Run.start (.str "a")).context.resolve? (some "[prompt]") = .ok "a" := by
    with_unfolding_all rfl
  have hurl : (Run.start (.str "a")).context.resolve? (some "u") = .ok "u" := by
    with_unfolding_all rfl
  obtain ⟨saved, hplay, -, -, hkeeps⟩ := play_saveFile_keepsUrl
    (.replying fun prompt _ => .ok prompt) (keepingFile "b" "v") hname hurl (by decide) (by decide)
  have hnone : ∀ f, (keepingFile "b" "v").workspace.findFile "a" = some f → f.url = "u" := nofun
  have hother : (Run.start (.str "")).context.resolve "b" = .ok "b" := by with_unfolding_all rfl
  refine ⟨hname, hurl, saved, hplay, hkeeps.2 hnone _ (fun p hp => ?_) _ _ hname⟩
  simp only [List.mem_cons, List.not_mem_nil, or_false] at hp
  rcases hp with rfl | rfl
  · exact id
  · intro hremoves
    rw [Command.RemovesFile, hother] at hremoves
    exact absurd (Except.ok.inj hremoves) (by decide)

/-- What is saved under a name that is taken is not read back. -/
theorem play_saveFile_olderFile :
    ∃ saved, (keepingFile "a" "old").play (.replying fun prompt _ => .ok prompt)
          ((RunM.dispatch (.saveFile (some "a") (some "new"))).from (.start (.str "")))
        = ((.ok (), { Run.start (.str "") with lastResult := .str "File Saved" }), saved)
      ∧ (saved.play (.replying fun prompt _ => .ok prompt)
          ((RunM.dispatch (.getFile "a")).from
            { Run.start (.str "") with lastResult := .str "File Saved" })).1
        = (.ok (), { Run.start (.str "") with lastResult := .str "old" })
      ∧ ¬ saved.KeepsUrl (.replying fun prompt _ => .ok prompt) "a" "new" := by
  have hname : (Run.start (.str "")).context.resolve? (some "a") = .ok "a" := by
    with_unfolding_all rfl
  have hurl : (Run.start (.str "")).context.resolve? (some "new") = .ok "new" := by
    with_unfolding_all rfl
  obtain ⟨saved, hplay, hworkspace⟩ := play_saveFile (.replying fun prompt _ => .ok prompt)
    (keepingFile "a" "old") hname hurl (by decide) (by decide)
  have hfound : saved.workspace.findFile "a" = some { name := "a", url := "old" } :=
    hworkspace ▸ rfl
  have hold := keepsUrl_of_findFile (.replying fun prompt _ => .ok prompt) hfound
  refine ⟨saved, hplay, hold [] (List.forall_mem_nil _) _ "a" hname, fun hnew => ?_⟩
  exact absurd (hold.unique _ hnew hname) (by decide)

end World

end AgentScript
