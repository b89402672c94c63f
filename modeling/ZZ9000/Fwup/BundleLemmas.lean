import Mathlib.Data.List.Pairwise
import ZZ9000.Fwup.Bundle

/-!
This module proves in which order a firmware bundle is installed, whatever the firmware replies.
-/

namespace ZZFwup

variable {σ : Type}

namespace FwupClient

@[simp]
theorem issue_log (io : FwupIo σ) (client : FwupClient σ) (command : FwupCommand)
    : (client.issue io command).2.log
        =
      client.log ++ [⟨command, (client.issue io command).1⟩] := by
  rfl

theorem fwupOpen_log (io : FwupIo σ) (client : FwupClient σ) {name : List Char}
    (h : nameValid name = true)
    : (client.fwupOpen io name).2.log
        =
      client.log ++ [⟨.openFile name, (client.fwupOpen io name).1⟩] := by
  unfold fwupOpen
  simp only [h, Bool.true_eq_false, if_false]
  rw [issue_log]
  rfl

theorem fwupWriteChunk_log (io : FwupIo σ) (client : FwupClient σ) (data : List UInt8)
    : (client.fwupWriteChunk io data).2 = client ∧
        (client.fwupWriteChunk io data).1 = Status.len ∨
      (1 ≤ data.length ∧ data.length ≤ chunkBytes) ∧
        (client.fwupWriteChunk io data).2.log
          =
        client.log ++ [⟨.write data, (client.fwupWriteChunk io data).1⟩] := by
  unfold fwupWriteChunk
  split
  next => simp
  next hlen =>
    simp only [Bool.or_eq_true, decide_eq_true_eq, not_or] at hlen
    refine Or.inr ⟨by omega, ?_⟩
    rw [issue_log]

end FwupClient

/--
The commands for one target: an OPEN, then WRITEs if it succeeded, a CLOSE if all of them did, and
an ABORT if anything failed.
-/
structure Transfer where
  target : List Char
  opened : UInt16
  chunks : List (List UInt8 × UInt16)
  closed : Option UInt16
  aborted : Option UInt16

namespace Transfer

def writes (chunks : List (List UInt8 × UInt16)) : List FwupEvent :=
  chunks.map fun chunk => ⟨.write chunk.1, chunk.2⟩

def log (t : Transfer) : List FwupEvent :=
  [⟨.openFile t.target, t.opened⟩] ++ writes t.chunks ++
    (t.closed.map (FwupEvent.mk .close)).toList ++ (t.aborted.map (FwupEvent.mk .abort)).toList

/-- The target was opened, written and closed, and the firmware replied OK to all of it. -/
structure Complete (t : Transfer) : Prop where
  opened : t.opened = Status.ok
  chunks : ∀ chunk ∈ t.chunks, chunk.2 = Status.ok
  closed : t.closed = some Status.ok
  aborted : t.aborted = none

/-- What a transfer of a file with this content may look like. -/
structure Sound (t : Transfer) (content : List UInt8) : Prop where
  chunk_size : ∀ chunk ∈ t.chunks, 1 ≤ chunk.1.length ∧ chunk.1.length ≤ chunkBytes
  content : t.closed = some Status.ok → (t.chunks.map Prod.fst).flatten = content
  aborted : t.opened = Status.ok → t.closed ≠ some Status.ok → t.aborted.isSome = true

end Transfer

theorem sendChunks_log (io : FwupIo σ) (target : List Char) (total : UInt32)
    (reads : List (Option Piece)) (run : BundleRun σ)
    : ∃ chunks,
        (run.sendChunks io target total reads).2.client.log
          =
        run.client.log ++ Transfer.writes chunks ∧
        (∀ chunk ∈ chunks, 1 ≤ chunk.1.length ∧ chunk.1.length ≤ chunkBytes) ∧
        ((run.sendChunks io target total reads).1 = Status.ok →
          (∀ chunk ∈ chunks, chunk.2 = Status.ok) ∧
            (chunks.map Prod.fst).flatten = HostFile.content ⟨reads⟩) := by
  induction reads generalizing run with
  | nil =>
    refine ⟨[], ?_⟩
    simp [BundleRun.sendChunks, Transfer.writes, HostFile.content]
  | cons read reads ih =>
    cases read with
    | none =>
      refine ⟨[], ?_⟩
      simp [BundleRun.sendChunks, Transfer.writes, Status.ok, Status.file]
    | some piece =>
      have hwrite := run.client.fwupWriteChunk_log io piece.val
      unfold BundleRun.sendChunks
      generalize hsent : run.client.fwupWriteChunk io piece.val = sent at hwrite
      obtain ⟨st, client⟩ := sent
      dsimp only at hwrite ⊢
      cases hwrite with
      | inl hrefused =>
        rw [if_pos]
        . refine ⟨[], ?_⟩
          simp [Transfer.writes, hrefused, Status.len, Status.ok]
        . simp [hrefused, Status.len, Status.ok]
      | inr hwritten =>
        split
        next hfailed =>
          refine ⟨[(piece.val, st)], ?_⟩
          simp [Transfer.writes, hwritten, hfailed]
        next hok =>
          simp only [ne_eq, not_not] at hok
          obtain ⟨chunks, hlog, hsize, hdone⟩ := ih
            (BundleRun.report
              { run with client, done := run.done + piece.val.length.toUInt32 } target total)
          refine ⟨(piece.val, st) :: chunks, ?_, ?_, ?_⟩
          . rw [hlog]
            simp [BundleRun.report, Transfer.writes, hwritten.2]
          . simp only [List.mem_cons, forall_eq_or_imp]
            exact ⟨hwritten.1, hsize⟩
          . intro hst
            obtain ⟨hall, hcontent⟩ := hdone hst
            constructor
            . simp only [List.mem_cons, forall_eq_or_imp]
              exact ⟨hok, hall⟩
            . simp only [List.map_cons, List.flatten_cons, hcontent]
              simp [HostFile.content]

theorem finishFile_log (io : FwupIo σ) (st : UInt16) (run : BundleRun σ)
    : ∃ closed aborted,
        (run.finishFile io st).2.client.log
          =
        run.client.log ++ (closed.map (FwupEvent.mk .close)).toList ++
          (aborted.map (FwupEvent.mk .abort)).toList ∧
        (closed ≠ none → st = Status.ok) ∧
        (closed ≠ some Status.ok → aborted.isSome = true) ∧
        ((run.finishFile io st).1 = Status.ok → closed = some Status.ok ∧ aborted = none) := by
  unfold BundleRun.finishFile
  cases eq_or_ne st Status.ok with
  | inl hok =>
    rw [if_pos hok]
    dsimp only [FwupClient.fwupClose, FwupClient.fwupAbort]
    split
    next hfailed =>
      refine ⟨some (run.client.issue io .close).1,
        some ((run.client.issue io .close).2.issue io .abort).1, ?_⟩
      simp [hok, hfailed]
    next hclosed =>
      simp only [ne_eq, not_not] at hclosed
      refine ⟨some (run.client.issue io .close).1, none, ?_⟩
      simp [hok, hclosed]
  | inr hfailed =>
    rw [if_neg hfailed]
    dsimp only [FwupClient.fwupAbort]
    rw [if_pos hfailed]
    refine ⟨none, some (run.client.issue io .abort).1, ?_⟩
    simp [hfailed]

/-- `send_bundle_file` issues nothing, or one transfer that is complete when it returns OK. -/
theorem sendBundleFile_log (io : FwupIo σ) (files : BundleFiles) (hostPath target : List Char)
    (total : UInt32) (run : BundleRun σ) (hvalid : nameValid target = true)
    : (run.sendBundleFile io files hostPath target total).1 ≠ Status.ok ∧
        (run.sendBundleFile io files hostPath target total).2.client.log = run.client.log ∨
      ∃ (t : Transfer) (file : HostFile), files.openFile hostPath = some file ∧ t.target = target ∧ t.Sound file.content ∧
        ((run.sendBundleFile io files hostPath target total).1 = Status.ok → t.Complete) ∧
        (run.sendBundleFile io files hostPath target total).2.client.log
          =
        run.client.log ++ t.log := by
  unfold BundleRun.sendBundleFile
  split
  next => simp [Status.file, Status.ok]
  next file hfile =>
    have hopen := FwupClient.fwupOpen_log io run.client hvalid
    generalize run.client.fwupOpen io target = opened at hopen
    obtain ⟨st, client⟩ := opened
    dsimp only at hopen ⊢
    apply Or.inr
    split
    next hrefused =>
      refine ⟨⟨target, st, [], none, none⟩, file, hfile, rfl, ?_, ?_, ?_⟩
      . constructor <;> simp [hrefused]
      . simp [hrefused]
      . simp [Transfer.log, Transfer.writes, hopen]
    next hok =>
      simp only [ne_eq, not_not] at hok
      obtain ⟨chunks, hchunks, hsize, hdone⟩ :=
        sendChunks_log io target total file.reads { run with client }
      generalize BundleRun.sendChunks io target total file.reads { run with client } = sent at *
      obtain ⟨closed, aborted, hfinish, hclosed, haborted, hcomplete⟩ :=
        finishFile_log io sent.1 sent.2
      refine ⟨⟨target, st, chunks, closed, aborted⟩, file, hfile, rfl, ?_, ?_, ?_⟩
      . constructor
        . exact hsize
        . intro h
          dsimp only at h
          exact (hdone (hclosed (by simp [h]))).2
        . intro _ h
          exact haborted h
      . intro hst
        have := hcomplete hst
        constructor
        . exact hok
        . exact (hdone (hclosed (by simp [this]))).1
        . exact this.1
        . exact this.2
      . rw [hfinish, hchunks, hopen]
        simp [Transfer.log]

/--
The transfers of the first targets of a plan, from the files at the paths beside them. All but the
last one are complete.
-/
inductive Sends (files : BundleFiles) : List (List Char × List Char) → List Transfer → Prop where
  | stopped (plan : List (List Char × List Char)) : Sends files plan []
  | failed {path : List Char} {t : Transfer} {file : HostFile}
    (plan : List (List Char × List Char)) :
    files.openFile path = some file → t.Sound file.content →
      Sends files ((path, t.target) :: plan) [t]
  | sent {path : List Char} {t : Transfer} {file : HostFile} {plan : List (List Char × List Char)}
    {transfers : List Transfer} :
    files.openFile path = some file → t.Sound file.content → t.Complete →
      Sends files plan transfers → Sends files ((path, t.target) :: plan) (t :: transfers)

theorem Sends.append {files : BundleFiles} {plan later : List (List Char × List Char)}
    {transfers : List Transfer} (h : Sends files plan transfers)
    : Sends files (plan ++ later) transfers := by
  induction h with
  | stopped plan => exact Sends.stopped _
  | failed plan hfile hsound => exact Sends.failed _ hfile hsound
  | sent hfile hsound hcomplete _ ih => exact Sends.sent hfile hsound hcomplete ih

/-- A module goes from the directory to the target of its name. -/
def modulePlan (dir : List Char) (entry : BundleModule) : List Char × List Char :=
  (dir ++ entry.name, modulePrefix ++ entry.name)

theorem nameValid_module {name : List Char} (h : moduleNameValid name = true)
    : nameValid (modulePrefix ++ name) = true := by
  unfold nameValid
  rw [if_pos]
  . rw [List.drop_left]
    exact h
  . rw [List.isPrefixOf_iff_prefix]
    exact List.prefix_append _ _

/-- The transfers of the modules. Those of a later plan may follow when the loop reports OK. -/
theorem sendModules_log (io : FwupIo σ) (files : BundleFiles) (dir : List Char) (total : UInt32)
    (modules : List BundleModule) (run : BundleRun σ)
    (hvalid : ∀ entry ∈ modules, moduleNameValid entry.name = true)
    : ∃ transfers,
        (run.sendModules io files dir total modules).2.2.client.log
          =
        run.client.log ++ transfers.flatMap Transfer.log ∧
        Sends files (modules.map (modulePlan dir)) transfers ∧
        ((run.sendModules io files dir total modules).1 = Status.ok → ∀ {later final},
          Sends files later final →
            Sends files (modules.map (modulePlan dir) ++ later) (transfers ++ final)) := by
  induction modules generalizing run with
  | nil =>
    refine ⟨[], by simp [BundleRun.sendModules], Sends.stopped _, ?_⟩
    intro _ later final hfinal
    exact hfinal
  | cons entry modules ih =>
    simp only [List.mem_cons, forall_eq_or_imp] at hvalid
    unfold BundleRun.sendModules
    split
    next =>
      refine ⟨[], by simp, Sends.stopped _, ?_⟩
      intro hst
      simp [Status.file, Status.ok] at hst
    next path hpath =>
      have hpath : path = dir ++ entry.name := by
        unfold makeModulePath at hpath
        split at hpath <;> simp_all
      have hsent := sendBundleFile_log io files path (modulePrefix ++ entry.name) total run
        (nameValid_module hvalid.1)
      generalize run.sendBundleFile io files path (modulePrefix ++ entry.name) total = sent at hsent
      obtain ⟨st, run'⟩ := sent
      dsimp only at hsent ⊢
      cases hsent with
      | inl hnone =>
        rw [if_pos hnone.1]
        refine ⟨[], by simp [hnone.2], Sends.stopped _, ?_⟩
        intro hst
        exact absurd hst hnone.1
      | inr hsome =>
        obtain ⟨t, file, hfile, htarget, hsound, hcomplete, hlog⟩ := hsome
        have hplan : modulePlan dir entry = (path, t.target) := by
          rw [htarget, hpath]
          rfl
        split
        next hfailed =>
          refine ⟨[t], by simp [hlog], ?_, ?_⟩
          . rw [List.map_cons, hplan]
            exact Sends.failed _ hfile hsound
          . intro hst
            exact absurd hst hfailed
        next hok =>
          simp only [ne_eq, not_not] at hok
          obtain ⟨transfers, hrest, hsends, hlater⟩ := ih run' hvalid.2
          refine ⟨t :: transfers, ?_, ?_, ?_⟩
          . rw [hrest, hlog]
            simp
          . rw [List.map_cons, hplan]
            exact Sends.sent hfile hsound (hcomplete hok) hsends
          . intro hst later final hfinal
            rw [List.map_cons, hplan]
            exact Sends.sent hfile hsound (hcomplete hok) (hlater hst hfinal)

/-- What `collect_module` keeps of the entries visited: the modules, by name. -/
structure Collected (entries : List (List Char × UInt32)) (modules : List BundleModule) : Prop where
  sorted : modules.Pairwise fun entry later => entry.name < later.name
  valid : ∀ entry ∈ modules, moduleNameValid entry.name = true
  mem_entries : ∀ entry ∈ modules, entry.name ∈ entries.map Prod.fst
  mem_modules : ∀ entry ∈ entries, moduleNameHasExtension entry.1 = true →
    ∃ module ∈ modules, module.name = entry.1

theorem mem_insertModule {entry other : BundleModule} {modules : List BundleModule}
    : other ∈ insertModule entry modules ↔ other = entry ∨ other ∈ modules := by
  unfold insertModule
  generalize (fun other : BundleModule => decide (entry.name < other.name)) = p
  have hsplit := List.rdropWhile_append_rtakeWhile (p := p) (l := modules)
  conv => rhs; rw [← hsplit]
  simp only [List.mem_append, List.mem_cons]
  tauto

theorem insertModule_sorted {entry : BundleModule} {modules : List BundleModule}
    (h : modules.Pairwise fun entry later => entry.name < later.name)
    (hnew : ∀ other ∈ modules, other.name ≠ entry.name)
    : (insertModule entry modules).Pairwise fun entry later => entry.name < later.name := by
  unfold insertModule
  generalize hp : (fun other : BundleModule => decide (entry.name < other.name)) = p
  have hsplit := List.rdropWhile_append_rtakeWhile (p := p) (l := modules)
  have hlater : ∀ other ∈ modules.rtakeWhile p, entry.name < other.name := by
    intro other hother
    have := List.mem_rtakeWhile_imp hother
    simpa [← hp] using this
  have hlast := List.rdropWhile_last_not p modules
  generalize modules.rdropWhile p = before at *
  generalize modules.rtakeWhile p = after at *
  rw [← hsplit, List.pairwise_append] at h
  have hbefore : ∀ other ∈ before, other.name < entry.name := by
    intro other hother
    have hne : before ≠ [] := List.ne_nil_of_mem hother
    have hlt : (before.getLast hne).name < entry.name := by
      have hle : (before.getLast hne).name ≤ entry.name := by
        have := hlast hne
        simpa [← hp] using this
      cases lt_or_eq_of_le hle with
      | inl hlt => exact hlt
      | inr heq =>
        apply absurd heq
        apply hnew
        rw [← hsplit]
        exact List.mem_append_left _ (List.getLast_mem hne)
    rw [← List.dropLast_append_getLast hne, List.mem_append, List.mem_singleton] at hother
    cases hother with
    | inl hmem => exact List.lt_trans (h.1.rel_dropLast_getLast hmem) hlt
    | inr heq =>
      rw [heq]
      exact hlt
  rw [List.pairwise_append, List.pairwise_cons]
  refine ⟨h.1, ⟨hlater, h.2.1⟩, ?_⟩
  intro other hother later hmem
  cases List.mem_cons.mp hmem with
  | inl heq =>
    rw [heq]
    exact hbefore other hother
  | inr hmem => exact h.2.2 other hother later hmem

theorem Collected.skip {entries : List (List Char × UInt32)} {modules : List BundleModule}
    {entry : List Char × UInt32} (h : Collected entries modules)
    (hextension : moduleNameHasExtension entry.1 = false)
    : Collected (entries ++ [entry]) modules where
  sorted := h.sorted
  valid := h.valid
  mem_entries := by
    intro module hmodule
    simp [h.mem_entries module hmodule]
  mem_modules := by
    intro other hother hother'
    simp only [List.mem_append, List.mem_singleton] at hother
    cases hother with
    | inl hmem => exact h.mem_modules other hmem hother'
    | inr heq => simp [heq, hextension] at hother'

theorem Collected.insert {entries : List (List Char × UInt32)} {modules : List BundleModule}
    {name : List Char} {size : UInt32} (h : Collected entries modules)
    (hvalid : moduleNameValid name = true) (hnew : name ∉ entries.map Prod.fst)
    : Collected (entries ++ [(name, size)]) (insertModule ⟨name, size⟩ modules) where
  sorted := by
    apply insertModule_sorted h.sorted
    intro other hother heq
    apply hnew
    dsimp only at heq
    rw [← heq]
    exact h.mem_entries other hother
  valid := by
    intro other hother
    cases mem_insertModule.mp hother with
    | inl heq => simpa [heq] using hvalid
    | inr hmem => exact h.valid other hmem
  mem_entries := by
    intro other hother
    rw [List.map_append, List.mem_append]
    cases mem_insertModule.mp hother with
    | inl heq => simp [heq]
    | inr hmem => exact Or.inl (h.mem_entries other hmem)
  mem_modules := by
    intro other hother hextension
    rw [List.mem_append, List.mem_singleton] at hother
    cases hother with
    | inl hmem =>
      obtain ⟨module, hmodule, heq⟩ := h.mem_modules other hmem hextension
      exact ⟨module, mem_insertModule.mpr (Or.inr hmodule), heq⟩
    | inr heq => exact ⟨⟨name, size⟩, mem_insertModule.mpr (Or.inl rfl), by simp [heq]⟩

theorem collectModule_collected {before : List (List Char × UInt32)} {modules : BundleModules}
    {name : List Char} {size : UInt32} (h : Collected before modules.entries)
    (hnew : name ∉ before.map Prod.fst) (hvisited : (collectModule modules name size).1 = true)
    : Collected (before ++ [(name, size)]) (collectModule modules name size).2.entries := by
  unfold collectModule at hvisited ⊢
  split at hvisited
  next hextension =>
    rw [if_pos hextension]
    exact h.skip hextension
  next hextension =>
    rw [if_neg hextension]
    split at hvisited
    next => simp at hvisited
    next hvalid =>
      rw [if_neg hvalid]
      split at hvisited
      next => simp at hvisited
      next hroom =>
        rw [if_neg hroom]
        simp only [Bool.not_eq_false] at hvalid
        exact h.insert hvalid hnew

theorem visitEntries_collected {entries before : List (List Char × UInt32)}
    {modules : BundleModules} (h : Collected before modules.entries)
    (hnodup : ((before ++ entries).map Prod.fst).Nodup)
    (hvisited : (visitEntries entries modules).1 = true)
    : Collected (before ++ entries) (visitEntries entries modules).2.entries := by
  induction entries generalizing before modules with
  | nil =>
    rw [List.append_nil]
    exact h
  | cons entry entries ih =>
    obtain ⟨name, size⟩ := entry
    rw [List.append_cons] at hnodup ⊢
    have hnew : name ∉ before.map Prod.fst := by
      rw [List.map_append, List.map_append, List.append_assoc, List.nodup_append] at hnodup
      intro hmem
      exact hnodup.2.2 name hmem name (by simp) rfl
    have hcollect : (collectModule modules name size).1 = true → _ :=
      collectModule_collected h hnew
    unfold visitEntries at hvisited ⊢
    generalize collectModule modules name size = collected at *
    obtain ⟨visited, modules'⟩ := collected
    cases visited with
    | false => simp at hvisited
    | true => exact ih (hcollect rfl) hnodup hvisited

/-- The entries that `list_dir` reports, none when the firmware has no module directory. -/
def bundleListing (fwCaps : UInt16) (bootHostPath : List Char) (files : BundleFiles)
    : List (List Char × UInt32) :=
  if hasModuleDir fwCaps then
    (files.listDir (dirPrefix bootHostPath ++ modulePrefix)).entries
  else
    []

theorem collectModules_ok {fwCaps : UInt16} {bootHostPath : List Char} {files : BundleFiles}
    {bootSize total : UInt32} {dir : List Char} {modules : List BundleModule}
    (h : collectModules fwCaps bootHostPath files bootSize = .ok (dir, modules, total))
    : Collected (bundleListing fwCaps bootHostPath files) modules ∧
      (modules = [] ∨ dir = dirPrefix bootHostPath ++ modulePrefix) := by
  unfold collectModules at h
  unfold bundleListing
  split at h
  next hcaps =>
    rw [if_pos hcaps]
    split at h
    next => simp at h
    next dir' hdir =>
      have hdir : dir' = dirPrefix bootHostPath ++ modulePrefix := by
        unfold makeModuleDir at hdir
        split at hdir <;> simp_all
      rw [hdir] at h
      generalize hlisting : files.listDir (dirPrefix bootHostPath ++ modulePrefix) = listing at h
      have hempty : Collected [] [] := ⟨by simp, by simp, by simp, by simp⟩
      have hcollected : (visitEntries listing.entries ⟨[], Status.ok⟩).1 = true →
          Collected listing.entries (visitEntries listing.entries ⟨[], Status.ok⟩).2.entries := by
        intro hvisited
        refine visitEntries_collected hempty ?_ hvisited
        exact listing.nodup
      dsimp only at h
      split at h
      next => simp at h
      next hvisited =>
        split at h
        next => simp at h
        next =>
          simp only [Except.ok.injEq, Prod.mk.injEq] at h
          simp only [Bool.or_eq_true, decide_eq_true_eq, not_or, Bool.not_eq_false] at hvisited
          rw [← h.2.1, ← h.1]
          exact ⟨hcollected hvisited.1, Or.inr rfl⟩
  next hcaps =>
    rw [if_neg hcaps]
    simp only [Except.ok.injEq, Prod.mk.injEq] at h
    rw [← h.2.1]
    exact ⟨⟨by simp, by simp, by simp, by simp⟩, Or.inl rfl⟩

/-- The targets of a bundle in order, each with the path of its file. -/
def bundlePlan (bootHostPath : List Char) (modules : List BundleModule)
    : List (List Char × List Char) :=
  modules.map (modulePlan (dirPrefix bootHostPath ++ modulePrefix)) ++ [(bootHostPath, bootTarget)]

theorem installBundle_log (io : FwupIo σ) (fwCaps : UInt16) (bootHostPath : List Char)
    (files : BundleFiles) (client : FwupClient σ)
    : ∃ transfers,
        (installBundle io fwCaps bootHostPath files client).2.2.client.log
          =
        client.log ++ transfers.flatMap Transfer.log ∧
        (transfers = [] ∨
          ∃ modules, Collected (bundleListing fwCaps bootHostPath files) modules ∧
            Sends files (bundlePlan bootHostPath modules) transfers) := by
  unfold installBundle
  split
  next => exact ⟨[], by simp, Or.inl rfl⟩
  next bootSize hsize =>
    dsimp only
    split
    next => exact ⟨[], by simp, Or.inl rfl⟩
    next dir modules total hmodules =>
      obtain ⟨hcollected, hdir⟩ := collectModules_ok hmodules
      have hplan : modules.map (modulePlan dir)
          = modules.map (modulePlan (dirPrefix bootHostPath ++ modulePrefix)) := by
        cases hdir with
        | inl hnil => simp [hnil]
        | inr hdir => rw [hdir]
      have hsent := sendModules_log io files dir total modules
        (BundleRun.report { client, done := 0, progress := [] } [] total) hcollected.valid
      generalize BundleRun.sendModules io files dir total modules
        (BundleRun.report { client, done := 0, progress := [] } [] total) = sent at hsent
      obtain ⟨transfers, hlog, hsends, hlater⟩ := hsent
      obtain ⟨st, failed, run⟩ := sent
      rw [hplan] at hsends hlater
      dsimp only at hlog hlater
      have hstopped : run.client.log = client.log ++ transfers.flatMap Transfer.log ∧
          (transfers = [] ∨
            ∃ modules, Collected (bundleListing fwCaps bootHostPath files) modules ∧
              Sends files (bundlePlan bootHostPath modules) transfers) := by
        exact ⟨hlog, Or.inr ⟨modules, hcollected, hsends.append⟩⟩
      cases failed with
      | some name => exact ⟨transfers, hstopped⟩
      | none =>
        dsimp only
        split
        next => exact ⟨transfers, hstopped⟩
        next hok =>
          simp only [ne_eq, not_not] at hok
          have hboot := sendBundleFile_log io files bootHostPath bootTarget total run (by decide)
          cases hboot with
          | inl hnone =>
            rw [hnone.2]
            exact ⟨transfers, hstopped⟩
          | inr hsome =>
            obtain ⟨t, file, hfile, htarget, hsound, _, hlast⟩ := hsome
            refine ⟨transfers ++ [t], ?_, Or.inr ⟨modules, hcollected, ?_⟩⟩
            . rw [hlast, hlog]
              simp [BundleRun.report]
            . apply hlater hok
              rw [← htarget]
              exact Sends.failed _ hfile hsound

/-! What the claims about a bundle say follows from the plan. -/

theorem Transfer.Complete.replies {t : Transfer} (h : t.Complete)
    : ∀ event ∈ t.log, event.reply = Status.ok := by
  intro event hevent
  have := h.chunks
  simp [Transfer.log, Transfer.writes, h.opened, h.closed, h.aborted] at hevent
  grind

theorem Transfer.log_pairwise (t : Transfer)
    : t.log.Pairwise fun _ later => ∀ name, later.command ≠ .openFile name := by
  unfold Transfer.log
  rw [List.append_assoc, List.append_assoc, List.singleton_append, List.pairwise_cons]
  have hothers : ∀ event ∈ Transfer.writes t.chunks ++
      ((t.closed.map (FwupEvent.mk .close)).toList ++ (t.aborted.map (FwupEvent.mk .abort)).toList),
      ∀ name, event.command ≠ .openFile name := by
    intro event hevent name
    simp only [List.mem_append, Transfer.writes, List.mem_map, Option.mem_toList,
      Option.map_eq_some_iff] at hevent
    rcases hevent with ⟨_, _, rfl⟩ | ⟨_, _, rfl⟩ | ⟨_, _, rfl⟩ <;> simp
  refine ⟨hothers, ?_⟩
  apply List.Pairwise.imp_of_mem _ (List.pairwise_of_forall (fun _ _ => trivial))
  intro _ later _ hlater _
  exact hothers later hlater

theorem Sends.log_pairwise {files : BundleFiles} {plan : List (List Char × List Char)}
    {transfers : List Transfer} (h : Sends files plan transfers)
    : (transfers.flatMap Transfer.log).Pairwise fun event later =>
        event.reply ≠ Status.ok → ∀ name, later.command ≠ .openFile name := by
  have hone : ∀ t : Transfer, t.log.Pairwise fun event later =>
      event.reply ≠ Status.ok → ∀ name, later.command ≠ .openFile name := by
    intro t
    apply t.log_pairwise.imp
    intro _ _ hlater _
    exact hlater
  induction h with
  | stopped => simp
  | failed => simpa using hone _
  | sent hfile hsound hcomplete _ ih =>
    rw [List.flatMap_cons, List.pairwise_append]
    refine ⟨hone _, ih, ?_⟩
    intro event hevent _ _ hfailed
    exact absurd (hcomplete.replies event hevent) hfailed

theorem Sends.targets {files : BundleFiles} {plan : List (List Char × List Char)}
    {transfers : List Transfer} (h : Sends files plan transfers)
    : transfers.map Transfer.target <+: plan.map Prod.snd := by
  induction h with
  | stopped => simp
  | failed => simp
  | sent _ _ _ _ ih => simpa [List.cons_prefix_cons] using ih

theorem Sends.sound {files : BundleFiles} {plan : List (List Char × List Char)}
    {transfers : List Transfer} (h : Sends files plan transfers)
    : ∀ t ∈ transfers, ∃ path file, (path, t.target) ∈ plan ∧ files.openFile path = some file ∧
        t.Sound file.content := by
  induction h with
  | stopped => simp
  | failed plan hfile hsound =>
    simp only [List.mem_singleton, forall_eq]
    exact ⟨_, _, List.mem_cons_self, hfile, hsound⟩
  | sent hfile hsound hcomplete _ ih =>
    simp only [List.mem_cons, forall_eq_or_imp]
    constructor
    . exact ⟨_, _, Or.inl rfl, hfile, hsound⟩
    . intro t ht
      obtain ⟨path, file, hmem, hfile, hsound⟩ := ih t ht
      exact ⟨path, file, Or.inr hmem, hfile, hsound⟩

theorem Sends.complete {files : BundleFiles} {plan : List (List Char × List Char)}
    {before after : List Transfer} {t : Transfer} (h : Sends files plan (before ++ t :: after))
    : ∀ earlier ∈ before, earlier.Complete := by
  induction before generalizing plan with
  | nil => simp
  | cons first before ih =>
    rw [List.cons_append] at h
    simp only [List.mem_cons, forall_eq_or_imp]
    generalize hrest : before ++ t :: after = rest at h
    cases h with
    | failed => simp at hrest
    | sent _ _ hcomplete h =>
      rw [← hrest] at h
      exact ⟨hcomplete, ih h⟩

theorem bundlePlan_targets (bootHostPath : List Char) (modules : List BundleModule)
    : (bundlePlan bootHostPath modules).map Prod.snd
        =
      (modules.map fun entry => modulePrefix ++ entry.name) ++ [bootTarget] := by
  simp [bundlePlan, modulePlan, Function.comp_def]

theorem modulePrefix_ne_boot (name : List Char) : modulePrefix ++ name ≠ bootTarget := by
  simp [modulePrefix, bootTarget]

/-- A prefix of a list that ends in an element found nowhere else is the list before it. -/
theorem eq_of_prefix_concat {α : Type} {xs ys targets : List α} {last : α}
    (h : xs ++ last :: ys <+: targets ++ [last]) (hlast : last ∉ targets)
    : xs = targets := by
  induction xs generalizing targets with
  | nil =>
    cases targets with
    | nil => rfl
    | cons target targets =>
      rw [List.nil_append, List.cons_append, List.cons_prefix_cons] at h
      simp [h.1] at hlast
  | cons x xs ih =>
    cases targets with
    | nil => simp at h
    | cons target targets =>
      rw [List.cons_append, List.cons_append, List.cons_prefix_cons] at h
      rw [h.1, ih h.2]
      intro hmem
      exact hlast (List.mem_cons_of_mem _ hmem)

/-- The host path of the file for a target. -/
def bundleSource (bootHostPath target : List Char) : List Char :=
  if target = bootTarget then bootHostPath else dirPrefix bootHostPath ++ target

/-- The commands of one installation, for what its directory listing reports. -/
structure BundleSafe (bootHostPath : List Char) (files : BundleFiles)
    (listing : List (List Char × UInt32)) (log : List FwupEvent) (transfers : List Transfer)
    : Prop where
  log_eq : log = transfers.flatMap Transfer.log
  complete_of_boot : ∀ before boot after, transfers = before ++ boot :: after →
    boot.target = bootTarget → ∀ entry ∈ listing, moduleNameHasExtension entry.1 = true →
      ∃ t ∈ before, t.target = modulePrefix ++ entry.1 ∧ t.Complete
  sorted : ∃ names : List (List Char),
    (transfers.map Transfer.target).filter (· ≠ bootTarget) = names.map (modulePrefix ++ ·) ∧
      names.Pairwise (· < ·) ∧ ∀ name ∈ names, moduleNameValid name = true
  no_open_of_failed : log.Pairwise fun event later =>
    event.reply ≠ Status.ok → ∀ name, later.command ≠ .openFile name
  sound : ∀ t ∈ transfers, ∃ file,
    files.openFile (bundleSource bootHostPath t.target) = some file ∧ t.Sound file.content

theorem BundleSafe.of_sends {bootHostPath : List Char} {files : BundleFiles}
    {listing : List (List Char × UInt32)} {modules : List BundleModule}
    {transfers : List Transfer} (hcollected : Collected listing modules)
    (hsends : Sends files (bundlePlan bootHostPath modules) transfers)
    : BundleSafe bootHostPath files listing (transfers.flatMap Transfer.log) transfers := by
  have htargets := hsends.targets
  rw [bundlePlan_targets] at htargets
  have hboot : bootTarget ∉ modules.map fun entry => modulePrefix ++ entry.name := by
    intro hmem
    obtain ⟨entry, _, heq⟩ := List.mem_map.mp hmem
    exact modulePrefix_ne_boot _ heq
  constructor
  case log_eq => rfl
  case complete_of_boot =>
    intro before boot after hsplit htarget entry hentry hextension
    rw [hsplit] at hsends htargets
    rw [List.map_append, List.map_cons, htarget] at htargets
    have hbefore := eq_of_prefix_concat htargets hboot
    obtain ⟨module, hmodule, hname⟩ := hcollected.mem_modules entry hentry hextension
    have hmem : modulePrefix ++ entry.1 ∈ before.map Transfer.target := by
      rw [hbefore, ← hname]
      exact List.mem_map.mpr ⟨module, hmodule, rfl⟩
    obtain ⟨t, ht, heq⟩ := List.mem_map.mp hmem
    exact ⟨t, ht, heq, hsends.complete t ht⟩
  case sorted =>
    have hprefix := htargets.filter (· ≠ bootTarget)
    have hkept : (modules.map fun entry => modulePrefix ++ entry.name).filter (· ≠ bootTarget)
        = (modules.map BundleModule.name).map (modulePrefix ++ ·) := by
      rw [List.filter_eq_self.mpr]
      . simp
      . intro target htarget
        have : target ≠ bootTarget := fun heq => hboot (heq ▸ htarget)
        simpa using this
    rw [List.filter_append, hkept] at hprefix
    simp only [ne_eq, decide_not, List.filter_cons, decide_true, Bool.not_true, Bool.false_eq_true,
      if_false, List.filter_nil, List.append_nil] at hprefix
    rw [List.prefix_iff_eq_take, ← List.map_take] at hprefix
    refine ⟨_, by simpa only [ne_eq, decide_not] using hprefix, ?_, ?_⟩
    . apply List.Pairwise.sublist (List.take_sublist _ _)
      rw [List.pairwise_map]
      exact hcollected.sorted
    . intro name hname
      obtain ⟨entry, hentry, heq⟩ := List.mem_map.mp (List.mem_of_mem_take hname)
      rw [← heq]
      exact hcollected.valid entry hentry
  case no_open_of_failed => exact hsends.log_pairwise
  case sound =>
    intro t ht
    obtain ⟨path, file, hmem, hfile, hsound⟩ := hsends.sound t ht
    refine ⟨file, ?_, hsound⟩
    have hpath : bundleSource bootHostPath t.target = path := by
      unfold bundlePlan at hmem
      rw [List.mem_append, List.mem_map, List.mem_singleton] at hmem
      unfold bundleSource
      cases hmem with
      | inl hmodule =>
        obtain ⟨entry, _, heq⟩ := hmodule
        simp only [modulePlan, Prod.mk.injEq] at heq
        rw [← heq.2, if_neg (modulePrefix_ne_boot _), ← heq.1, List.append_assoc]
      | inr heq =>
        simp only [Prod.mk.injEq] at heq
        rw [if_pos heq.2, heq.1]
    rw [hpath]
    exact hfile

theorem installBundle_safe (io : FwupIo σ) (ctx : σ) (fwCaps : UInt16) (bootHostPath : List Char)
    (files : BundleFiles)
    : ∃ transfers, BundleSafe bootHostPath files (bundleListing fwCaps bootHostPath files)
        (installBundle io fwCaps bootHostPath files ⟨ctx, []⟩).2.2.client.log transfers := by
  obtain ⟨transfers, hlog, hplan⟩ := installBundle_log io fwCaps bootHostPath files ⟨ctx, []⟩
  refine ⟨transfers, ?_⟩
  rw [hlog, List.nil_append]
  cases hplan with
  | inl hnone =>
    rw [hnone]
    constructor
    case sorted => exact ⟨[], by simp⟩
    all_goals simp
  | inr hsome =>
    obtain ⟨modules, hcollected, hsends⟩ := hsome
    exact BundleSafe.of_sends hcollected hsends

end ZZFwup
