import ContractScan.Proofs.Command.Stages
import ContractScan.Proofs.FileTree.SameFiles

/-! # The log of a scan

While a scan runs, its log holds the records so far, one a line, and every event
adds one. Opening the log and writing to it changes no other file.
-/

namespace ContractScan

open FileTree (SameFiles SameDirectories Grows)

def journal (records : List Value) : String :=
  String.join (records.map Report.jsonLine)

theorem journal_append (records more : List Value) :
    journal (records ++ more) = journal records ++ journal more := by
  simp [journal, String.join_append]

theorem journal_singleton (record : Value) : journal [record] = Report.jsonLine record := by
  simp [journal]

def Environment.recordOf (env : Environment) (event : String) (entries : List (String × Value)) :
    Value :=
  Trace.record env.time (.str event) (entries.map fun entry => (.str entry.1, entry.2))

/-- Entries that go with the time and the event on one line. -/
structure Recordable (entries : List (String × Value)) : Prop where
  keys : ("timestamp" :: "event" :: entries.map (·.1)).Nodup
  oneLine : ∀ entry ∈ entries, '\n' ∉ Json.render entry.2

namespace Recordable

variable {entries : List (String × Value)}

theorem recordOf_eq (h : Recordable entries) (env : Environment) (event : String) :
    env.recordOf event entries =
      .record (("timestamp", .str env.time) :: ("event", .str event) :: entries) :=
  congrArg Value.map
    (Json.foldl_put_entriesOf [("timestamp", .str env.time), ("event", .str event)] entries h.keys)

theorem newline_not_mem (h : Recordable entries) (env : Environment) (event : String) :
    '\n' ∉ Json.render (env.recordOf event entries) := by
  rw [h.recordOf_eq]
  refine Json.newline_not_mem_render_record ?_
  simp only [List.forall_mem_cons]
  exact ⟨Json.newline_not_mem_renderText _, Json.newline_not_mem_renderText _, h.oneLine⟩

theorem fault (message : String) :
    Recordable [("stage", .str "rules"), ("message", .str message)] where
  keys := by simp
  oneLine := by simp [Json.render, Json.newline_not_mem_renderText]

end Recordable

/-- The log is where its path leads and holds these records, one a line, and the next one goes to
its end. -/
structure Journal (log : Path) (place : List String) (records : List Value) (p : Progress) :
    Prop where
  ne_nil : place ≠ []
  locate : p.tree.locate log = .ok place
  node? : p.tree.node? place = some (.file (.text (journal records)))
  file : p.trace.file = some { place, written := (journal records).utf8ByteSize }
  oneLine : ∀ record ∈ records, '\n' ∉ Json.render record

namespace Journal

variable {log : Path} {place : List String} {records : List Value} {p p' : Progress}

theorem of_sameFiles {except : Option (List String)} (h : Journal log place records p)
    (hgrows : Grows p.tree p'.tree) (hsame : SameFiles except p.tree p'.tree)
    (hne : except ≠ some place) (htrace : p'.trace = p.trace) : Journal log place records p' where
  ne_nil := h.ne_nil
  locate := hgrows.locate h.locate
  node? := (hsame place _ hne).mpr h.node?
  file := by rw [htrace, h.file]
  oneLine := h.oneLine

theorem of_eq (h : Journal log place records p) (htree : p'.tree = p.tree)
    (htrace : p'.trace = p.trace) : Journal log place records p' := by
  have hgrows : Grows p.tree p'.tree := by rw [htree]; exact .refl _
  have hsame : SameFiles none p.tree p'.tree := by rw [htree]; exact .refl _ _
  exact h.of_sameFiles hgrows hsame nofun htrace

theorem at? (h : Journal log place records p) :
    p.tree.at? log = some (.file (.text (journal records))) := by
  rw [FileTree.at?, h.locate]
  exact h.node?

theorem place? (h : Journal log place records p) : p.trace.place? = some place := by
  rw [Trace.place?, h.file]
  rfl

theorem kind? (h : Journal log place records p) :
    ∀ names ∈ p.trace.place?, p.tree.kind? names = some false := by
  rw [h.place?]
  rintro _ ⟨⟩
  rw [FileTree.kind?, h.node?]
  rfl

theorem pieces (h : Journal log place records p) :
    Text.pieces '\n' (journal records).toList = records.map Json.render ++ [[]] := by
  have htext : (journal records).toList = (records.map Json.render).flatMap (· ++ ['\n']) := by
    simp [journal, Report.jsonLine, Json.print, String.toList_join, List.flatMap_map]
  rw [htext]
  exact Text.pieces_flatMap (by simpa using h.oneLine)

/-- An event adds its record. -/
theorem record (h : Journal log place records p) {env : Environment} {event : String}
    {entries : List (String × Value)} {u : Unit} (hentries : Recordable entries)
    (hrun : (Action.record env event entries).run.run p = (.ok u, p')) :
    Journal log place (records ++ [env.recordOf event entries]) p' := by
  let more := records ++ [env.recordOf event entries]
  have hmore : journal more =
      journal records ++ (Json.print (env.recordOf event entries) ++ "\n") := by
    rw [journal_append, journal_singleton, Report.jsonLine]
  have hwrite : p.trace.write p.tree (env.recordOf event entries) =
      (p.tree.put place (.file (.text (journal more))),
        { file := some ⟨place, (journal more).utf8ByteSize⟩ }) := by
    rw [hmore]
    simp [Trace.write, h.file, FileTree.writeNext, h.node?, Content.size, Content.appendText]
  have htree : p'.tree = p.tree.put place (.file (.text (journal more))) := by
    cases hrun
    exact congrArg (·.1) hwrite
  have htrace : p'.trace = { file := some ⟨place, (journal more).utf8ByteSize⟩ } := by
    cases hrun
    exact congrArg (·.2) hwrite
  have hgrows : Grows p.tree p'.tree := by
    rw [htree]
    exact .put_file (by simp [h.node?])
  refine ⟨h.ne_nil, hgrows.locate h.locate, ?_, ?_, ?_⟩
  · rw [htree]
    exact FileTree.node?_put_self h.ne_nil
  · rw [htrace]
  · simp only [List.forall_mem_append, List.forall_mem_singleton]
    exact ⟨h.oneLine, hentries.newline_not_mem env event⟩

end Journal

theorem journal_of_start {log : Path} {trace : Trace} {t t' : FileTree}
    (h : (Trace.start (some log)).run.run t = (.ok trace, t')) :
    ∃ place, Journal log place [] { tree := t', trace } ∧ SameFiles (some place) t t' ∧
      SameDirectories log.Above t t' := by
  obtain ⟨file, _, hopen, hpure⟩ := run_bind_eq_ok h
  cases hpure
  obtain ⟨hdirectories, place, rfl, hne, hlocate, hnode, hkept⟩ :=
    FileTree.run_openNew_sameFiles hopen
  exact ⟨place, ⟨hne, hlocate, hnode, rfl, by simp⟩, hkept, hdirectories⟩

/-- The path of the log's directory, or of one above it. -/
def ScanOptions.AboveLog (options : ScanOptions) (p : Path) : Prop :=
  ∃ log ∈ options.debugLog, log.Above p

section Opening

variable {options : ScanOptions} {trace : Trace} {t t' : FileTree}

theorem ScanOptions.aboveLog_eq {log : Path} (h : options.debugLog = some log) :
    options.AboveLog = log.Above := by
  funext p
  simp [AboveLog, h]

theorem changes_of_start (h : (Trace.start options.debugLog).run.run t = (.ok trace, t')) :
    SameFiles trace.place? t t' ∧ SameDirectories options.AboveLog t t' := by
  cases hlog : options.debugLog with
  | none =>
    rw [hlog] at h
    cases h
    exact ⟨.refl _ _, .refl _ _⟩
  | some log =>
    rw [hlog] at h
    obtain ⟨place, hjournal, hkept, hdirectories⟩ := journal_of_start h
    have hplace : trace.place? = some place := hjournal.place?
    rw [hplace, ScanOptions.aboveLog_eq hlog]
    exact ⟨hkept, hdirectories⟩

theorem widens_of_start_error {e : FileError}
    (h : (Trace.start options.debugLog).run.run t = (.error e, t')) :
    FileTree.Widens options.AboveLog t t' := by
  cases hlog : options.debugLog with
  | none =>
    rw [hlog] at h
    cases h
  | some log =>
    rw [hlog] at h
    rw [ScanOptions.aboveLog_eq hlog]
    obtain hopen | ⟨_, _, -, hpure⟩ := run_bind_eq_error h
    · exact FileTree.widens_of_openNew_error hopen
    · cases hpure

end Opening

end ContractScan
