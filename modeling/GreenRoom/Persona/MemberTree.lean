import GreenRoom.Persona.ArchiveScan
import Mathlib.Data.List.TakeWhile

/-!
# The tree of an archive's members

No two members have the same path, and no file lies beneath another file; but the loop that
looks for files that are directories of others passes over the explicit directories.

## Main definitions

* `Tree` — no file is at the path of another member, or above it.
* `centralNames` — the names in the central directory.
* `Apart` — no directory is named beneath a file.

## Main results

* `member_tree` — the members of an archive that is accepted are a tree if, and only if, no
  directory is named beneath a file.
* `member_tree_fails` — an archive that is accepted, and whose members are none.
-/

namespace GreenRoom.Persona

open PyStr

/-- `above` is a directory of `path`. -/
def IsAbove (above path : PyStr) : Prop := above ++ [slash] <+: path

instance (above path : PyStr) : Decidable (IsAbove above path) :=
  inferInstanceAs (Decidable (_ <+: _))

/-- The path of a file is neither that of another member nor a directory of it, in lower case. -/
def Tree (members : List ArchiveMember) : Prop :=
  ∀ (i j : ℕ) (file other : ArchiveMember), i ≠ j → members[i]? = some file →
    members[j]? = some other → file.isDir = false →
      file.path.lower ≠ other.path.lower ∧ ¬ IsAbove file.path.lower other.path.lower

/-- The names in the central directory of an archive. -/
def centralNames (archive : Bytes) : List PyStr :=
  match centralDirectory archive with
  | .ok (_, entries) => entries.map fun entry => PyStr.ofAscii entry.rawName
  | .error _ => []

/-- No directory is named beneath a file. -/
def Apart (names : List PyStr) : Prop :=
  ∀ file ∈ names, ∀ directory ∈ names, namesDirectory file = false →
    namesDirectory directory = true → ¬ IsAbove file.lower directory.lower

/-! ## Paths in lower case -/

theorem lower_append (s t : PyStr) : (s ++ t).lower = s.lower ++ t.lower := List.map_append

theorem lower_slash : PyStr.lower [slash] = [slash] := by decide

theorem mem_parents {above path : PyStr} : above ∈ parents path ↔ IsAbove above path := by
  unfold parents
  simp only [List.mem_map, List.mem_range'_1]
  constructor
  · rintro ⟨index, ⟨hindex, hlt⟩, rfl⟩
    have hsplit : path = join slash (path.split slash) := (List.intercalate_splitOn slash).symm
    have htake : (path.split slash).take index ≠ [] := by
      rw [ne_eq, List.take_eq_nil_iff]
      rintro (h | h)
      · omega
      · exact List.splitOn_ne_nil _ _ h
    have hdrop : (path.split slash).drop index ≠ [] := by
      rw [ne_eq, List.drop_eq_nil_iff]
      omega
    refine ⟨join slash ((path.split slash).drop index), ?_⟩
    conv_rhs => rw [hsplit, ← List.take_append_drop index (path.split slash)]
    rw [join_append htake hdrop, List.append_assoc, List.singleton_append]
  · rintro ⟨rest, rfl⟩
    have hsplit : (above ++ [slash] ++ rest).split slash =
        above.split slash ++ PyStr.split rest slash := by
      rw [List.append_assoc, List.singleton_append]
      exact List.splitOn_append_cons_self _ _
    have hlength : 0 < (above.split slash).length :=
      List.length_pos_of_ne_nil (List.splitOn_ne_nil _ _)
    have hrest : 0 < (PyStr.split rest slash).length :=
      List.length_pos_of_ne_nil (List.splitOn_ne_nil _ _)
    refine ⟨(above.split slash).length, ⟨hlength, ?_⟩, ?_⟩
    · rw [hsplit, List.length_append]
      omega
    · rw [hsplit, List.take_left']
      · exact List.intercalate_splitOn slash
      · rfl

/-- Nothing is above a member that is a file. -/
theorem not_isAbove_file {members : List ArchiveMember} (h : checkCollisions members = .ok ())
    {file member : ArchiveMember} (hfile : file ∈ members) (hfileDir : file.isDir = false)
    (hmember : member ∈ members) (hdir : member.isDir = false) :
    ¬ IsAbove file.path.lower member.path.lower := by
  intro habove
  have hpassed := Except.forM_eq_ok.mp h member hmember
  have hparent : (parents member.path.lower).any (· ∈ fileIdentities members) = true := by
    rw [List.any_eq_true]
    refine ⟨file.path.lower, mem_parents.mpr habove, decide_eq_true ?_⟩
    exact List.mem_map_of_mem (List.mem_filter.mpr ⟨hfile, by rw [hfileDir]; rfl⟩)
  rw [hdir, hparent] at hpassed
  cases hpassed

/-! ## Names and members -/

/-- The name of an entry is its root, and after a slash the path of its member. -/
structure Named (entry : CentralEntry) (member : ArchiveMember) : Prop where
  isDir : member.isDir = namesDirectory (PyStr.ofAscii entry.rawName)
  folded : entry.folded = entry.root.lower ++ slash :: member.path.lower ∨
    (entry.folded = entry.root.lower ∧ member.path = [] ∧ member.isDir = true)
  file : member.isDir = false → entry.folded = (PyStr.ofAscii entry.rawName).lower ∧
    member.path ≠ []
  directory : member.isDir = true →
    (PyStr.ofAscii entry.rawName).lower = entry.folded ++ [slash]

/-- A path is its first segment, and after a slash the rest; or it is one segment. -/
theorem partition_eq (path : PyStr) :
    path = (partition path).1 ++ slash :: (partition path).2 ∨
      (path = (partition path).1 ∧ (partition path).2 = [] ∧ slash ∉ path) := by
  have hparts :=
    (List.takeWhile_append_dropWhile (p := fun c => decide (c ≠ slash)) (l := path)).symm
  unfold partition
  cases hdrop : path.dropWhile (fun c => decide (c ≠ slash)) with
  | nil =>
      rw [hdrop, List.append_nil] at hparts
      refine .inr ⟨hparts, rfl, fun hmem => ?_⟩
      exact absurd (List.dropWhile_eq_nil_iff.mp hdrop slash hmem) (by simp)
  | cons c rest =>
      have hc := List.head?_dropWhile_not (fun c => decide (c ≠ slash)) path
      rw [hdrop] at hc hparts
      obtain rfl : c = slash := by simpa using hc
      exact .inl hparts

theorem Scanned.named {zlib : Zlib} {archive : Bytes} {centralOffset : ℕ} {entry : CentralEntry}
    {member : ArchiveMember} {span : ℕ × ℕ}
    (h : Scanned zlib archive centralOffset entry member span) : Named entry member where
  isDir := h.isDir
  folded := by
    rw [CentralEntry.folded, CentralEntry.root, h.memberPath]
    rcases partition_eq (identity (PyStr.ofAscii entry.rawName)) with hpath | ⟨hpath, hnil, hslash⟩
    · left
      conv_lhs => rw [hpath]
      rw [lower_append]
      rfl
    · refine .inr ⟨congrArg lower hpath, hnil, ?_⟩
      rw [h.isDir]
      by_contra hfile
      rw [Bool.not_eq_true] at hfile
      have hlength := h.path.rooted hfile
      rw [PyStr.split, List.splitOn_eq_singleton hslash] at hlength
      exact absurd hlength (Nat.not_succ_le_self 1)
  file hdir := by
    rw [h.isDir] at hdir
    have hidentity : identity (PyStr.ofAscii entry.rawName) = PyStr.ofAscii entry.rawName :=
      if_neg (by rw [hdir]; exact Bool.false_ne_true)
    refine ⟨by rw [CentralEntry.folded, hidentity], ?_⟩
    rw [h.memberPath]
    intro hnil
    rcases partition_eq (identity (PyStr.ofAscii entry.rawName)) with hpath | ⟨-, -, hslash⟩
    · refine h.path.noDots [] ?_ List.mem_cons_self
      rw [hpath, hnil, PyStr.split, List.splitOn_append_cons_self, List.splitOn_nil]
      exact List.mem_append_right _ (List.mem_singleton_self _)
    · have hlength := h.path.rooted hdir
      rw [PyStr.split, List.splitOn_eq_singleton hslash] at hlength
      exact absurd hlength (Nat.not_succ_le_self 1)
  directory hdir := by
    rw [h.isDir] at hdir
    have hname := List.dropLast_append_getLast? slash (of_decide_eq_true hdir)
    have hidentity : identity (PyStr.ofAscii entry.rawName) =
        (PyStr.ofAscii entry.rawName).dropLast := if_pos hdir
    rw [CentralEntry.folded, hidentity, ← lower_slash, ← lower_append, hname]

theorem Accepted.named {zlib : Zlib} {archive : Bytes} {members : List ArchiveMember}
    {record : EndRecord} {entries : List CentralEntry} {results : List (ArchiveMember × ℕ × ℕ)}
    (h : Accepted zlib archive members record entries results) :
    List.Forall₂ Named entries members := by
  rw [h.found, List.forall₂_map_right_iff]
  exact h.scanned.imp fun _ _ hscanned => hscanned.named

/-- The names in the central directory are those of the entries. -/
theorem Accepted.centralNames_eq {zlib : Zlib} {archive : Bytes} {members : List ArchiveMember}
    {record : EndRecord} {entries : List CentralEntry} {results : List (ArchiveMember × ℕ × ℕ)}
    (h : Accepted zlib archive members record entries results) :
    centralNames archive = entries.map fun entry => PyStr.ofAscii entry.rawName := by
  rw [centralNames, h.directory]

/-! ## Files and other members -/

section

variable {file other : CentralEntry} {member member' : ArchiveMember}

/-- The paths of two members of one root are equal if their entries' are. -/
theorem Named.eq_of_lower_eq (h : Named file member) (h' : Named other member')
    (hdir : member.isDir = false) (hroot : file.root = other.root)
    (heq : member.path.lower = member'.path.lower) : file.folded = other.folded := by
  have hnonempty : member.path.lower ≠ [] := by
    rw [ne_eq, PyStr.lower, List.map_eq_nil_iff]
    exact (h.file hdir).2
  rcases h.folded with hfolded | ⟨-, -, hisDir⟩
  · rcases h'.folded with hfolded' | ⟨-, hnil, -⟩
    · rw [hfolded, hfolded', hroot, heq]
    · rw [hnil] at heq
      exact absurd heq hnonempty
  · rw [hdir] at hisDir
    cases hisDir

/-- A file is above another member if its name is. -/
theorem Named.isAbove_iff (h : Named file member) (h' : Named other member')
    (hdir : member.isDir = false) (hdir' : member'.isDir = true) (hroot : file.root = other.root) :
    IsAbove (PyStr.ofAscii file.rawName).lower (PyStr.ofAscii other.rawName).lower ↔
      member.path.lower = member'.path.lower ∨ IsAbove member.path.lower member'.path.lower := by
  obtain ⟨hname, hpath⟩ := h.file hdir
  have hnonempty : member.path.lower ≠ [] := by
    rw [ne_eq, PyStr.lower, List.map_eq_nil_iff]
    exact hpath
  have hfile : file.folded = file.root.lower ++ slash :: member.path.lower := by
    rcases h.folded with hfolded | ⟨-, -, hisDir⟩
    · exact hfolded
    · rw [hdir] at hisDir
      cases hisDir
  rw [IsAbove, ← hname, h'.directory hdir', hfile, hroot]
  rcases h'.folded with hfolded' | ⟨hfolded', hnil, -⟩
  · rw [hfolded', List.append_assoc, List.append_assoc, List.prefix_append_right_inj,
      List.cons_append, List.cons_append, List.prefix_cons_inj, List.prefix_concat_iff]
    rw [List.append_left_inj]
    exact Iff.rfl
  · rw [hfolded', hnil, List.append_assoc, List.prefix_append_right_inj, List.cons_append,
      List.prefix_cons_inj]
    constructor
    · intro hprefix
      exact absurd (List.prefix_nil.mp hprefix) (by simp)
    · rintro (heq | hprefix)
      · exact absurd heq hnonempty
      · exact absurd (List.prefix_nil.mp hprefix) (by simp)

end

/-- **An accepted archive is a tree** exactly if no directory in it is named beneath a file. -/
theorem member_tree {zlib : Zlib} {archive : Bytes} {members : List ArchiveMember}
    (h : readArchive zlib (some archive) = .ok members) :
    Tree members ↔ Apart (centralNames archive) := by
  obtain ⟨_, record, entries, results, heq, haccepted⟩ := readArchive_accepted h
  obtain rfl := Option.some.inj heq
  obtain ⟨hlength, hnamed⟩ := List.forall₂_iff_get.mp haccepted.named
  have hsame : ∀ i (hi : i < entries.length) j (hj : j < entries.length),
      (entries[i]).folded = (entries[j]).folded → i = j := by
    intro i hi j hj heq
    have hentry : entries[i] = entries[j] :=
      List.inj_on_of_nodup_map haccepted.folded (List.getElem_mem hi) (List.getElem_mem hj) heq
    exact (haccepted.folded.of_map _).getElem_inj_iff.mp hentry
  have hroot : ∀ i (hi : i < entries.length) j (hj : j < entries.length),
      (entries[i]).root = (entries[j]).root := fun i hi j hj =>
    haccepted.oneRoot _ (List.getElem_mem hi) _ (List.getElem_mem hj)
  rw [haccepted.centralNames_eq]
  constructor
  · intro htree _ hfile _ hdirectory hnotDir hdir habove
    obtain ⟨i, hi, rfl⟩ := List.getElem_of_mem hfile
    obtain ⟨j, hj, rfl⟩ := List.getElem_of_mem hdirectory
    rw [List.length_map] at hi hj
    simp only [List.getElem_map] at hnotDir hdir habove
    have hfileNamed := hnamed i hi (hlength ▸ hi)
    have hotherNamed := hnamed j hj (hlength ▸ hj)
    have hfileDir := hfileNamed.isDir.trans hnotDir
    have hotherDir := hotherNamed.isDir.trans hdir
    have hne : i ≠ j := by
      rintro rfl
      rw [hnotDir] at hdir
      cases hdir
    obtain ⟨hdiffer, hapart⟩ := htree i j _ _ hne (List.getElem?_eq_getElem (hlength ▸ hi))
      (List.getElem?_eq_getElem (hlength ▸ hj)) hfileDir
    rcases (hfileNamed.isAbove_iff hotherNamed hfileDir hotherDir (hroot i hi j hj)).mp habove
      with heq | hprefix
    · exact hdiffer heq
    · exact hapart hprefix
  · intro hapart i j file other hne hfile hother hdir
    obtain ⟨hi, rfl⟩ := List.getElem?_eq_some_iff.mp hfile
    obtain ⟨hj, rfl⟩ := List.getElem?_eq_some_iff.mp hother
    have hfileNamed := hnamed i (hlength ▸ hi) hi
    have hotherNamed := hnamed j (hlength ▸ hj) hj
    have hroots := hroot i (hlength ▸ hi) j (hlength ▸ hj)
    refine ⟨fun heq => hne ?_, fun habove => ?_⟩
    · exact hsame i _ j _ (hfileNamed.eq_of_lower_eq hotherNamed hdir hroots heq)
    · cases hotherDir : (members[j]).isDir with
      | false =>
          exact not_isAbove_file haccepted.collisions (List.getElem_mem hi) hdir
            (List.getElem_mem hj) hotherDir habove
      | true =>
          refine hapart _ (List.mem_map_of_mem (List.getElem_mem (hlength ▸ hi)))
            _ (List.mem_map_of_mem (List.getElem_mem (hlength ▸ hj))) ?_ ?_ ?_
          · exact hfileNamed.isDir.symm.trans hdir
          · exact hotherNamed.isDir.symm.trans hotherDir
          · exact (hfileNamed.isAbove_iff hotherNamed hdir hotherDir hroots).mpr (.inr habove)

theorem member_tree_stored : Tree [⟨PyStr.ofString "assets", [], true⟩,
    ⟨PyStr.ofString "assets/a", ascii "Hello", false⟩] :=
  (member_tree treeArchive_read).mpr (by unfold Apart; decide +kernel)

def nestedArchive : Bytes :=
  storedArchive [{ name := ascii "pack/a", attributes := regularFile },
    { name := ascii "pack/A/b/", attributes := directory }]

theorem nestedArchive_read : readArchive stored (some nestedArchive) =
    .ok [⟨PyStr.ofString "a", [], false⟩, ⟨PyStr.ofString "A/b", [], true⟩] := by
  decide +kernel

/-- A directory is named beneath a file, in another case. -/
theorem member_tree_fails : ¬ ∀ archive members,
    readArchive stored (some archive) = .ok members → Tree members := by
  intro h
  have htree := h _ _ nestedArchive_read 0 1 _ _ Nat.zero_ne_one rfl rfl rfl
  exact htree.2 (by decide)

end GreenRoom.Persona
