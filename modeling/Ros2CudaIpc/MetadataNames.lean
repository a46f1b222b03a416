import Ros2CudaIpc.FormattedText

/-!
# The names of metadata objects

A block's metadata object is named by the publisher's process number and the block's
number. The publisher writes the name on a stream with the global locale, and a
subscriber joins the plain digits: the two names are equal when the locale separates
neither number. The cleanup of a starting publisher reads the names back.

A directory entry carries the answer `kill` gives while that entry is handled. The
result of removing an object is only logged; the pass here lists the names it removes.
-/

namespace Ros2CudaIpc.MetadataNames

open FormattedText

/-- What every name begins with, behind its slash, on either side and in the format of the
cleanup. -/
def nameStem : List Char := "ros2_cuda_ipc_".toList

/-- `shm_name_for_block`, on a stream with the locale, which is the global one of the process. -/
def shmNameForBlock (locale : NumPunct) (publisherPid blockId : UInt32) : List Char :=
  '/' :: nameStem ++ locale.put publisherPid.toNat ++ '_' :: locale.put blockId.toNat

/-- The name the default attach function of `BufferMetadataCache` joins, from digits without a
locale. -/
def attachName (publisherPid blockId : UInt32) : List Char :=
  '/' :: nameStem ++ decimal publisherPid.toNat ++ '_' :: decimal blockId.toNat

/-- The format of `cleanup_orphaned_metadata_objects`, `ros2_cuda_ipc_%u_%u%c`. The last directive
must find nothing. -/
def orphanFormat : List Directive :=
  nameStem.map .literal ++ [.unsigned, .literal '_', .unsigned, .char]

/-- The answer of `kill` with signal zero, which only asks whether the process is there. -/
inductive KillResult where
  | succeeded
  | failed (errno : Int32)
deriving DecidableEq, Repr

/-- The error number of `kill` for a process which does not exist. -/
def ESRCH : Int32 := 3

/-- The error number of `kill` for a process which exists and may not be signalled. -/
def EPERM : Int32 := 1

/-- An entry of the directory, and what `kill` answers while it is handled. -/
structure Dirent where
  name : List Char
  kill : Int32 → KillResult

/-- One turn of the loop: the name it removes, if any. An unassigned number is zero. -/
def orphanName (entry : Dirent) : Option (List Char) :=
  let scanned := scan orphanFormat entry.name 0 []
  let pid := scanned.numbers.headD 0
  if scanned.returned ≠ 2 ∨ pid = 0 then none
  else
    match entry.kill pid.toInt32 with
    | .succeeded => none
    | .failed errno => if errno ≠ ESRCH then none else some ('/' :: entry.name)

/-- `cleanup_orphaned_metadata_objects` over the listed entries, as the names it removes; without
a directory there are none. -/
def cleanupOrphanedMetadataObjects (directory : Option (List Dirent)) : List (List Char) :=
  match directory with
  | none => []
  | some entries => entries.filterMap orphanName

variable {publisherPid blockId : UInt32}

/-- A subscriber's name is a slash and the text the format describes, which is the name of the
directory's entry. -/
theorem attachName_slash (publisherPid blockId : UInt32) :
    attachName publisherPid blockId = '/' :: (attachName publisherPid blockId).tail := rfl

/-- Behind its slash a subscriber's name is the stem and the two numbers, joined by an underscore.
-/
theorem attachName_tail (publisherPid blockId : UInt32) :
    (attachName publisherPid blockId).tail =
      nameStem ++ (decimal publisherPid.toNat ++ '_' :: decimal blockId.toNat) := by
  simp only [attachName, List.cons_append, List.append_assoc, List.tail_cons]

/-- That text is read back as its two numbers, with nothing behind them, for all 32-bit numbers. -/
theorem scan_attachName (publisherPid blockId : UInt32) :
    scan orphanFormat (attachName publisherPid blockId).tail 0 [] =
      ⟨2, [publisherPid, blockId]⟩ := by
  have middle : EndsNumber ('_' :: decimal blockId.toNat) := by
    intro char first
    obtain rfl := Option.some.inj first
    decide
  have last : EndsNumber ([] : List Char) := by
    intro char first
    simp at first
  calc scan orphanFormat (attachName publisherPid blockId).tail 0 []
      = scan [.unsigned, .literal '_', .unsigned, .char]
          (decimal publisherPid.toNat ++ '_' :: decimal blockId.toNat) 0 [] := by
        rw [attachName_tail]
        exact scan_literals nameStem _
    _ = scan [.literal '_', .unsigned, .char] ('_' :: decimal blockId.toNat) 1 [publisherPid] :=
        scan_decimal publisherPid middle
    _ = scan [.unsigned, .char] (decimal blockId.toNat ++ []) 1 [publisherPid] := by
        rw [List.append_nil]
        exact scan_literals ['_'] _
    _ = scan [.char] [] 2 [publisherPid, blockId] := scan_decimal blockId last
    _ = ⟨2, [publisherPid, blockId]⟩ := rfl

/-- Different blocks have different names, because the scan recovers both numbers. -/
theorem attachName_injective {otherPid otherBlock : UInt32}
    (same : attachName publisherPid blockId = attachName otherPid otherBlock) :
    publisherPid = otherPid ∧ blockId = otherBlock := by
  have numbers := scan_attachName publisherPid blockId
  rw [same, scan_attachName] at numbers
  simp only [Scanned.mk.injEq, List.cons.injEq, and_true, true_and] at numbers
  exact ⟨numbers.1.symm, numbers.2.symm⟩

/-- The name a publisher creates is the plain one subscribers attach, exactly when its
locale separates neither number; and the plain name tells every two blocks apart. -/
theorem names_agree_iff (locale : NumPunct) (publisherPid blockId : UInt32) :
    (shmNameForBlock locale publisherPid blockId = attachName publisherPid blockId ↔
      locale.Ungrouped publisherPid.toNat ∧ locale.Ungrouped blockId.toNat) ∧
    ∀ otherPid otherBlock, attachName publisherPid blockId = attachName otherPid otherBlock →
      publisherPid = otherPid ∧ blockId = otherBlock := by
  refine ⟨⟨fun same => ?_, fun ungrouped => ?_⟩, fun _ _ => attachName_injective⟩
  · have lengths := congrArg List.length same
    simp only [shmNameForBlock, attachName, List.length_append, List.length_cons] at lengths
    have pids := length_le_put locale publisherPid.toNat
    have blocks := length_le_put locale blockId.toNat
    constructor
    · by_contra grouped
      have longer := length_lt_put grouped
      omega
    · by_contra grouped
      have longer := length_lt_put grouped
      omega
  · simp only [shmNameForBlock, attachName, put_ungrouped ungrouped.1, put_ungrouped ungrouped.2]

/-- A locale which separates thousands by a comma leaves 999 and 0 alone, so the two names agree. -/
theorem names_agree_small : shmNameForBlock ⟨',', [3]⟩ 999 0 = attachName 999 0 :=
  (names_agree_iff ⟨',', [3]⟩ 999 0).1.mpr (by decide +kernel)

/-- It separates the number of a usual process, so the subscriber attaches a name nobody has
created. -/
theorem grouped_name_differs :
    shmNameForBlock ⟨',', [3]⟩ 12345 0 = "/ros2_cuda_ipc_12,345_0".toList ∧
      attachName 12345 0 = "/ros2_cuda_ipc_12345_0".toList ∧
      shmNameForBlock ⟨',', [3]⟩ 12345 0 ≠ attachName 12345 0 := by
  decide +kernel

/-- In the classic locale a block's object has the name its subscribers attach, whatever the two
numbers are. -/
theorem shmNameForBlock_classic (publisherPid blockId : UInt32) :
    shmNameForBlock .classic publisherPid blockId = attachName publisherPid blockId := by
  simp only [shmNameForBlock, attachName, put_classic]

/-- The entry of a block's object is removed exactly when its publisher's process is
said not to exist. -/
theorem orphanName_iff {entry : Dirent} (positive : publisherPid ≠ 0)
    (named : entry.name = (attachName publisherPid blockId).tail) (name : List Char) :
    orphanName entry = some name ↔ name = attachName publisherPid blockId ∧
      entry.kill publisherPid.toInt32 = .failed ESRCH := by
  have slashed : '/' :: entry.name = attachName publisherPid blockId := by
    rw [named]
    exact (attachName_slash publisherPid blockId).symm
  simp only [orphanName, slashed]
  rw [named, scan_attachName]
  simp only [List.headD_cons, ne_eq, not_true_eq_false, positive, or_self, if_false]
  cases entry.kill publisherPid.toInt32 with
  | succeeded => simp
  | failed errno =>
    by_cases absent : errno = ESRCH
    · simp [absent, eq_comm]
    · simp [absent]

/-- A removed name is a slash and the name of its entry, so nothing is removed which was not
listed. -/
theorem orphanName_slash {entry : Dirent} {name : List Char}
    (removed : orphanName entry = some name) : name = '/' :: entry.name := by
  simp only [orphanName] at removed
  split at removed
  · simp at removed
  split at removed
  · simp at removed
  split at removed
  · simp at removed
  · exact (Option.some.inj removed).symm

/-- For a publisher's process number the format reads back exactly the number and the
block, and asks `kill` for that process. One pass over any directory, with any
answers, removes the block's object exactly when it is listed while its publisher is
said not to exist; a publisher which exists, whether it may be signalled or not, keeps
its objects. -/
theorem cleanup_spares_living (entries : List Dirent) (publisherPid blockId : UInt32)
    (positive : 1 ≤ publisherPid.toNat) (process : publisherPid.toNat ≤ 2 ^ 31 - 1) :
    scan orphanFormat (shmNameForBlock .classic publisherPid blockId).tail 0 [] =
        ⟨2, [publisherPid, blockId]⟩ ∧
      publisherPid.toInt32.toInt = publisherPid.toNat ∧
      (shmNameForBlock .classic publisherPid blockId ∈
          cleanupOrphanedMetadataObjects (some entries) ↔
        ∃ entry ∈ entries, entry.name = (shmNameForBlock .classic publisherPid blockId).tail ∧
          entry.kill publisherPid.toInt32 = .failed ESRCH) ∧
      ((∀ entry ∈ entries, entry.kill publisherPid.toInt32 = .succeeded ∨
          entry.kill publisherPid.toInt32 = .failed EPERM) →
        shmNameForBlock .classic publisherPid blockId ∉
          cleanupOrphanedMetadataObjects (some entries)) := by
  have nonzero : publisherPid ≠ 0 := by
    rintro rfl
    simp at positive
  rw [shmNameForBlock_classic]
  have removed : attachName publisherPid blockId ∈ cleanupOrphanedMetadataObjects (some entries) ↔
      ∃ entry ∈ entries, entry.name = (attachName publisherPid blockId).tail ∧
        entry.kill publisherPid.toInt32 = .failed ESRCH := by
    simp only [cleanupOrphanedMetadataObjects, List.mem_filterMap]
    constructor
    · rintro ⟨entry, member, name⟩
      have named : entry.name = (attachName publisherPid blockId).tail := by
        rw [orphanName_slash name]
        rfl
      exact ⟨entry, member, named, ((orphanName_iff nonzero named _).mp name).2⟩
    · rintro ⟨entry, member, named, absent⟩
      exact ⟨entry, member, (orphanName_iff nonzero named _).mpr ⟨rfl, absent⟩⟩
  refine ⟨scan_attachName publisherPid blockId, ?_, removed, fun lives listed => ?_⟩
  · have small : 2 * publisherPid.toBitVec.toNat < 2 ^ 32 := by
      have same : publisherPid.toBitVec.toNat = publisherPid.toNat := rfl
      omega
    exact BitVec.toInt_eq_toNat_of_lt small
  · obtain ⟨entry, member, -, absent⟩ := removed.mp listed
    rcases lives entry member with alive | forbidden
    · rw [alive] at absent
      simp at absent
    · rw [forbidden] at absent
      exact absurd (KillResult.failed.inj absent) (by decide)

/-- Of a dead, a living and a protected publisher's objects the first is removed. -/
theorem cleanup_spares_living_three :
    let kill : Int32 → KillResult := fun pid =>
      if pid = 41 then .failed ESRCH else if pid = 42 then .succeeded else .failed EPERM
    let entries := [⟨"ros2_cuda_ipc_41_7".toList, kill⟩, ⟨"ros2_cuda_ipc_42_7".toList, kill⟩,
      ⟨"ros2_cuda_ipc_43_7".toList, kill⟩]
    1 ≤ (41 : UInt32).toNat ∧ (41 : UInt32).toNat ≤ 2 ^ 31 - 1 ∧
      shmNameForBlock .classic 41 7 ∈ cleanupOrphanedMetadataObjects (some entries) ∧
      shmNameForBlock .classic 42 7 ∉ cleanupOrphanedMetadataObjects (some entries) := by
  intro kill entries
  have dead := cleanup_spares_living entries 41 7 (by decide) (by decide)
  have living := cleanup_spares_living entries 42 7 (by decide) (by decide)
  refine ⟨by decide, by decide, dead.2.2.1.mpr ⟨_, List.mem_cons_self .., ?_, ?_⟩, ?_⟩
  · decide +kernel
  · decide +kernel
  · decide +kernel

end Ros2CudaIpc.MetadataNames
