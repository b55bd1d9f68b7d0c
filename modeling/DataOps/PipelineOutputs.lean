import DataOps.PipelineRules
/-!
# PipelineOutputs — a committed row and the file it describes

The path of an output is a function of the run alone, so a second execution writes over the first one's file, whichever
of them gets its row in.  A file is always the output of the inputs it was last written from (`Written`); while every write
over a committed row's file, and every commit over another's write, is of the same inputs (`KeepsOutput`), these are the
inputs of the row (`Current`), and its hash is the file's (`Written.file`).
-/
namespace DataOps
namespace Pipeline

section
variable {py : PythonValues} (dep : Deployment py)

/-- The act leaves no committed row without its file: what is written over such a row's file was made from what that row's
was, and what is committed from what its file was last made from. -/
def KeepsOutput (w : World py.toPython) : Effect py.toPython → Prop
  | .writeFile path _ made =>
    ∀ c ∈ w.commits, ∀ row made', c.output = some (row, made') → row.outputFilePath = path → made' = made
  | .commit c              =>
    w.recorded c = false → ∀ row made, c.output = some (row, made) → w.lastMade row.outputFilePath = some made

/-- The bytes and the hash are those of the inputs. -/
def Effect.Computed : Effect py.toPython → Prop
  | .writeFile _ content made => made.output dep = some content
  | .commit c                 =>
    ∀ row made, c.output = some (row, made) → ∃ content, made.output dep = some content ∧
      dep.sha256 content = row.outputSha256

/-- **A written file is the output of its last inputs, and the hash on a row that of the output of its own.** -/
structure Written (w : World py.toPython) : Prop where
  files   : ∀ path made, w.lastMade path = some made →
    ∃ content, made.output dep = some content ∧ w.files path = some content
  commits : ∀ c ∈ w.commits, Effect.Computed dep (.commit c)

/-- **The file of a committed row was last written from the inputs of the row.** -/
def Current (w : World py.toPython) : Prop :=
  ∀ c ∈ w.commits, ∀ row made, c.output = some (row, made) → w.lastMade row.outputFilePath = some made

/-- A step of an execution whose act keeps the outputs. -/
def KeepsOutputs {ι η : Type} (s : Programs.State (World py.toPython) (Query py.toPython) (Effect py.toPython) Outcome)
    (l : Programs.Label ι η) : Prop :=
  ∀ e effect next, l = .advance e → s.programs e = some (.act effect next) → KeepsOutput s.shared effect

end

section
variable {py : PythonValues} {dep : Deployment py} {w : World py.toPython}

theorem Written.file (h : Written dep w) {c : Commit py.toPython} (hc : c ∈ w.commits) {row : OutputRow} {made : Made}
    (hrow : c.output = some (row, made)) (hlast : w.lastMade row.outputFilePath = some made) :
    ∃ content, w.files row.outputFilePath = some content ∧ dep.sha256 content = row.outputSha256 := by
  obtain ⟨content, hcontent, hhash⟩ := h.commits c hc row made hrow
  obtain ⟨content', hcontent', hfile⟩ := h.files _ _ hlast
  have heq : content' = content := Option.some.inj (hcontent'.symm.trans hcontent)
  exact ⟨content', hfile, heq ▸ hhash⟩

/-- Nothing written and nothing committed. -/
theorem Written.of_nil (hwrites : w.writes = []) (hcommits : w.commits = []) : Written dep w where
  files := fun path made h => by
    rw [World.lastMade, hwrites] at h
    cases h
  commits := fun c hc => by
    rw [hcommits] at hc
    cases hc

theorem Current.of_nil (hcommits : w.commits = []) : Current w := fun c hc => by
  rw [hcommits] at hc
  cases hc

theorem lastMade_congr {w' : World py.toPython} (h : w'.writes = w.writes) (path : FilePath) :
    w'.lastMade path = w.lastMade path := by rw [World.lastMade, World.lastMade, h]

/-- A file with a last write is one that was written. -/
theorem mem_writes_of_lastMade {path : FilePath} {made : Made} (h : w.lastMade path = some made) :
    ∃ entry ∈ w.writes, entry.1 = path := by
  obtain ⟨entry, hfind, -⟩ := Option.map_eq_some_iff.1 h
  exact ⟨entry, List.mem_of_find?_eq_some hfind, by simpa using List.find?_some hfind⟩

/-- It is about the files that were written, and the history. -/
theorem Written.of_eq {w' : World py.toPython} (h : Written dep w) (hwrites : w'.writes = w.writes)
    (hcommits : w'.commits = w.commits) (hfiles : ∀ entry ∈ w.writes, w'.files entry.1 = w.files entry.1) :
    Written dep w' := by
  refine ⟨fun path made hmade => ?_, hcommits ▸ h.commits⟩
  rw [lastMade_congr hwrites] at hmade
  obtain ⟨content, hcontent, hfile⟩ := h.files path made hmade
  obtain ⟨entry, hentry, rfl⟩ := mem_writes_of_lastMade hmade
  exact ⟨content, hcontent, (hfiles entry hentry).trans hfile⟩

theorem Current.of_eq {w' : World py.toPython} (h : Current w) (hwrites : w'.writes = w.writes)
    (hcommits : w'.commits = w.commits) : Current w' := by
  intro c hc row made hrow
  rw [hcommits] at hc
  rw [lastMade_congr hwrites]
  exact h c hc row made hrow

@[simp] theorem insert_files (c : Commit py.toPython) : (w.insert c).files = w.files := by cases c <;> rfl
@[simp] theorem insert_writes (c : Commit py.toPython) : (w.insert c).writes = w.writes := by cases c <;> rfl
@[simp] theorem insert_tables (c : Commit py.toPython) : (w.insert c).tables = w.tables := by cases c <;> rfl

theorem mem_outputRows {row : OutputRow} :
    row ∈ w.outputRows ↔ (∃ r ∈ w.cleaningRuns, r.toOutputRow = row) ∨
      ∃ r ∈ w.standardizationRuns, r.toOutputRow = row := by
  simp only [World.outputRows, List.mem_append, List.mem_map]

/-- The rows on files after a commit. -/
theorem mem_outputRows_insert {c : Commit py.toPython} {row : OutputRow} (h : row ∈ (w.insert c).outputRows) :
    row ∈ w.outputRows ∨ ∃ made, c.output = some (row, made) := by
  cases c with
  | dataProfile => exact .inl h
  | matchRun => exact .inl h
  | exportRun => exact .inl h
  | cleaningRun run profile inputs =>
    simp only [World.insert, World.outputRows, List.map_append, List.mem_append, List.map_singleton,
      List.mem_singleton] at h ⊢
    rcases h with (h | rfl) | h
    · exact .inl (.inl h)
    · exact .inr ⟨_, rfl⟩
    · exact .inl (.inr h)
  | standardizationRun run cleaningRun inputs =>
    simp only [World.insert, World.outputRows, List.map_append, List.mem_append, List.map_singleton,
      List.mem_singleton] at h ⊢
    rcases h with h | h | rfl
    · exact .inl (.inl h)
    · exact .inl (.inr h)
    · exact .inr ⟨_, rfl⟩

/-! ## What an act leaves -/

theorem lastMade_writeFile (path path' : FilePath) (content : ByteArray) (made : Made) :
    (w.perform (.writeFile path content made)).1.lastMade path' = if path = path' then some made
      else w.lastMade path' := by
  simp only [World.perform, World.lastMade, List.find?_cons]
  by_cases hpath : path = path' <;> simp [hpath]

@[simp] theorem commit_files (c : Commit py.toPython) : (w.perform (.commit c)).1.files = w.files := by
  simp only [World.perform]
  split
  · rfl
  · exact insert_files c

@[simp] theorem commit_writes (c : Commit py.toPython) : (w.perform (.commit c)).1.writes = w.writes := by
  simp only [World.perform]
  split
  · rfl
  · exact insert_writes c

theorem mem_commits_of_not_recorded {c : Commit py.toPython} (h : w.recorded c = false) :
    c ∈ (w.perform (.commit c)).1.commits := by simp [World.perform, h]

theorem mem_commits_commit {c c' : Commit py.toPython} (h : c' ∈ (w.perform (.commit c)).1.commits) :
    c' ∈ w.commits ∨ w.recorded c = false ∧ c' = c := by
  simp only [World.perform] at h
  split at h
  · exact .inl h
  · rename_i hrecorded
    rcases List.mem_append.1 h with hold | hnew
    · exact .inl hold
    · exact .inr ⟨by simpa using hrecorded, List.mem_singleton.1 hnew⟩

/-- **Any act whose bytes and hash are computed.** -/
theorem Written.perform (h : Written dep w) {effect : Effect py.toPython} (hcomputed : effect.Computed dep) :
    Written dep (w.perform effect).1 := by
  cases effect with
  | writeFile path content made =>
    refine ⟨fun path' made' hmade => ?_, h.commits⟩
    rw [lastMade_writeFile] at hmade
    by_cases hpath : path = path'
    · rw [if_pos hpath] at hmade
      cases hmade
      exact ⟨content, hcomputed, by simp [World.perform, hpath]⟩
    · rw [if_neg hpath] at hmade
      obtain ⟨content', hcontent, hfile⟩ := h.files path' made' hmade
      refine ⟨content', hcontent, ?_⟩
      simpa [World.perform, Ne.symm hpath] using hfile
  | commit c =>
    refine ⟨fun path made hmade => ?_, fun c' hc' => ?_⟩
    · rw [lastMade_congr (commit_writes c)] at hmade
      rw [commit_files]
      exact h.files path made hmade
    · rcases mem_commits_commit hc' with hold | ⟨-, rfl⟩
      · exact h.commits c' hold
      · exact hcomputed

/-- **An act that keeps the outputs.** -/
theorem Current.perform (h : Current w) {effect : Effect py.toPython} (hkeeps : KeepsOutput w effect) :
    Current (w.perform effect).1 := by
  cases effect with
  | writeFile path content made =>
    intro c hc row made' hrow
    rw [lastMade_writeFile]
    split
    · rename_i hpath
      rw [hkeeps c hc row made' hrow hpath.symm]
    · exact h c hc row made' hrow
  | commit c =>
    intro c' hc' row made hrow
    rw [lastMade_congr (commit_writes c)]
    rcases mem_commits_commit hc' with hold | ⟨hrecorded, rfl⟩
    · exact h c' hold row made hrow
    · exact hkeeps hrecorded row made hrow

/-! ## Steps that keep the outputs -/

/-- Only an execution's own steps act. -/
theorem keepsOutputs_of_ne {ι η : Type}
    {s : Programs.State (World py.toPython) (Query py.toPython) (Effect py.toPython) Outcome} {l : Programs.Label ι η}
    (h : ∀ e, l ≠ .advance e) : KeepsOutputs s l := fun e _ _ hlabel => absurd hlabel (h e)

/-- A look keeps the outputs. -/
theorem keepsOutputs_look {ι η : Type}
    {s : Programs.State (World py.toPython) (Query py.toPython) (Effect py.toPython) Outcome} {e : Nat}
    {query : Query py.toPython} {next : World py.toPython → Execution py.toPython}
    (h : s.programs e = some (.observe query next)) : KeepsOutputs s (.advance e : Programs.Label ι η) := by
  rintro e' effect next' hlabel hprogram
  cases hlabel
  rw [h] at hprogram
  cases hprogram

/-- An act keeps the outputs if its effect does. -/
theorem keepsOutputs_act {ι η : Type}
    {s : Programs.State (World py.toPython) (Query py.toPython) (Effect py.toPython) Outcome} {e : Nat}
    {effect : Effect py.toPython} {next : Bool → Execution py.toPython} (h : s.programs e = some (.act effect next))
    (hkeeps : KeepsOutput s.shared effect) : KeepsOutputs s (.advance e : Programs.Label ι η) := by
  rintro e' effect' next' hlabel hprogram
  cases hlabel
  rw [h] at hprogram
  cases hprogram
  exact hkeeps

/-- What the rule of a handler asks about the bytes and the hash. -/
theorem outputRow_computed {context : ExecutionContext} {dataSource : DataSource} {sourceTaskRunId : Api.TaskRunId}
    {root : OutputRoot} {content : ByteArray} {rowCount : Nat} {made : Made} (hmade : made.output dep = some content)
    {c : Commit py.toPython}
    (hc : c.output = some (outputRow dep context dataSource sourceTaskRunId root content rowCount, made)) :
    Effect.Computed dep (.commit c) := by
  intro row made' hrow
  rw [hc] at hrow
  cases hrow
  exact ⟨content, hmade, rfl⟩

end

end Pipeline
end DataOps
