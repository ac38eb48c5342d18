import Shorthand.Disk.Basic
import Shorthand.Proofs.Text

/-! What writing does to a disk. A path leads to one place whatever is on the disk, folders on the
way may come into being, and of the files only the one at that place gets new contents, all of them
or none. -/
namespace Shorthand.Disk
variable {d d' d'' : Disk} {p : Path} {place q : Place}

/-- Contents of the file at a place. -/
def fileAt (d : Disk) (place : Place) : Option (List UInt8) :=
  match d.entry? place with
  | some (.file bytes) => some bytes
  | _ => none

/-- The place a path leads to by name. -/
def target (d : Disk) (p : Path) : Place :=
  Path.follow (if p.root.isEmpty then d.cwd else []) p.steps

/-- The same disk, but for folders where nothing was. -/
structure MoreFolders (d d' : Disk) : Prop where
  cwd : d'.cwd = d.cwd
  entry : ∀ q, d'.entry? q = d.entry? q ∨ (d.entry? q = none ∧ d'.entry? q = some .folder)

section Entries

lemma lookup_putEntry (place q : Place) (e : Entry) (entries : List (Place × Entry)) :
    (putEntry place e entries).lookup q = if q = place then some e else entries.lookup q := by
  induction entries with
  | nil =>
    by_cases hq : q = place
    · simp [putEntry, hq]
    · have hb : (q == place) = false := by simpa using hq
      simp [putEntry, List.lookup_cons, hq, hb]
  | cons entry entries ih =>
    obtain ⟨k, v⟩ := entry
    by_cases hk : k = place
    · subst hk
      by_cases hq : q = k
      · simp [putEntry, hq]
      · have hb : (q == k) = false := by simpa using hq
        simp [putEntry, List.lookup_cons, hq, hb]
    · by_cases hq : q = k
      · subst hq
        simp [putEntry, hk]
      · have hb : (q == k) = false := by simpa using hq
        simp [putEntry, List.lookup_cons, hk, hb, ih]

lemma entry?_put (h : place ≠ []) (e : Entry) (q : Place) :
    Disk.entry? (d.put place e) q = if q = place then some e else d.entry? q := by
  cases q with
  | nil => simp [Ne.symm h, entry?]
  | cons step steps => simp [put, entry?, lookup_putEntry]

lemma ne_nil_of_not_folder (h : d.entry? place ≠ some .folder) : place ≠ [] := by
  rintro rfl
  exact h rfl

lemma fileAt_put_file (h : place ≠ []) (bytes : List UInt8) (q : Place) :
    (d.put place (.file bytes)).fileAt q = if q = place then some bytes else d.fileAt q := by
  by_cases hq : q = place <;> simp [fileAt, entry?_put h, hq]

end Entries

section MoreFolders

lemma MoreFolders.refl (d : Disk) : MoreFolders d d := ⟨rfl, fun _ => .inl rfl⟩

lemma MoreFolders.trans (h : MoreFolders d d') (h' : MoreFolders d' d'') : MoreFolders d d'' := by
  refine ⟨h'.cwd.trans h.cwd, fun q => ?_⟩
  rcases h'.entry q with hq' | ⟨hnone, hfolder⟩
  · rw [hq']
    exact h.entry q
  · rcases h.entry q with hq | ⟨-, hq⟩
    · exact .inr ⟨hq ▸ hnone, hfolder⟩
    · rw [hnone] at hq
      cases hq

lemma MoreFolders.fileAt (h : MoreFolders d d') (q : Place) : d'.fileAt q = d.fileAt q := by
  unfold Disk.fileAt
  rcases h.entry q with hq | ⟨hnone, hfolder⟩
  · rw [hq]
  · rw [hnone, hfolder]

lemma target_of_cwd (h : d'.cwd = d.cwd) : d'.target p = d.target p := by
  rw [target, target, h]

lemma MoreFolders.target (h : MoreFolders d d') (p : Path) : d'.target p = d.target p :=
  target_of_cwd h.cwd

lemma moreFolders_put (h : d.entry? place = none) : MoreFolders d (d.put place .folder) := by
  have hne : place ≠ [] := ne_nil_of_not_folder (by rw [h]; simp)
  refine ⟨rfl, fun q => ?_⟩
  rw [entry?_put hne]
  by_cases hq : q = place
  · rw [if_pos hq, hq]
    exact .inr ⟨h, rfl⟩
  · rw [if_neg hq]
    exact .inl rfl

lemma makeFolder_moreFolders (h : d.makeFolder p = .ok d') : MoreFolders d d' := by
  unfold makeFolder at h
  split at h
  · cases h
  · next place _ =>
    cases hentry : d.entry? place with
    | some e =>
      rw [hentry] at h
      cases h
    | none =>
      rw [hentry] at h
      obtain rfl := Except.ok.inj h
      exact moreFolders_put hentry

lemma settle_moreFolders (d : Disk) (p : Path) : MoreFolders d (d.settle p (d.makeFolder p)).1 := by
  cases hmake : d.makeFolder p with
  | ok d' => exact makeFolder_moreFolders hmake
  | error cause =>
    unfold settle
    split_ifs
    · exact .refl d
    · exact .refl d

/-- Making folders makes folders and nothing else, also when it fails half way. -/
theorem makeFolders_moreFolders (d : Disk) (p : Path) : MoreFolders d (d.makeFolders p).1 := by
  fun_induction makeFolders d p with
  | case1 => exact .refl d
  | case2 p _ _ d' fault hparent ih => exact hparent ▸ ih
  | case3 p _ _ d' hparent ih =>
    rw [hparent] at ih
    exact ih.trans (settle_moreFolders d' p)
  | case4 p => exact settle_moreFolders d p

end MoreFolders

section Paths

lemma follow_append (here steps rest : List Text) :
    Path.follow here (steps ++ rest) = Path.follow (Path.follow here steps) rest := by
  induction steps generalizing here with
  | nil => rfl
  | cons step steps ih =>
    rw [List.cons_append, Path.follow, Path.follow]
    split_ifs
    · exact ih _
    · exact ih _

/-- Where steps lead does not depend on the disk, only whether they can be taken. -/
lemma walk_eq_follow {here : Place} {steps : List Text} (h : d.walk here steps = .ok place) :
    place = Path.follow here steps := by
  induction steps generalizing here with
  | nil => exact (Except.ok.inj h).symm
  | cons step steps ih =>
    unfold walk at h
    split at h
    · cases h
    · cases h
    · split_ifs at h with hup hlong
      · rw [Path.follow, if_pos hup]
        exact ih h
      · rw [Path.follow, if_neg hup]
        exact ih h

lemma locate_eq_target (h : d.locate p = .ok place) : place = d.target p := by
  unfold locate at h
  split at h
  · cases h
  split at h
  · cases h
  · exact walk_eq_follow h

lemma walk_zeroByte {here : Place} {steps : List Text} : d.walk here steps ≠ .error .zeroByte := by
  intro h
  induction steps generalizing here with
  | nil => cases h
  | cons step steps ih =>
    unfold walk at h
    split at h
    · cases h
    · cases h
    · split_ifs at h
      · exact ih h
      · cases h
      · exact ih h

lemma locate_zeroByte (hp : p.hasZero = false) : d.locate p ≠ .error .zeroByte := by
  intro h
  unfold locate at h
  rw [hp] at h
  split at h
  · next hzero => cases hzero
  split at h
  · cases h
  · exact walk_zeroByte h

lemma hasZero_parent (h : p.hasZero = false) : p.parent.hasZero = false := by
  simp only [Path.hasZero, Path.parent, List.any_eq_false] at h ⊢
  exact fun step hstep => h step (List.dropLast_subset _ hstep)

end Paths

section Writing

lemma makeFolder_zeroByte (hp : p.hasZero = false) : d.makeFolder p ≠ .error .zeroByte := by
  intro h
  unfold makeFolder at h
  split at h
  · next cause hlocate =>
    obtain rfl := Except.error.inj h
    exact locate_zeroByte hp hlocate
  · split at h
    · cases h
    · cases h

lemma settle_zeroByte {fault : Fault} (hp : p.hasZero = false)
    (h : (d.settle p (d.makeFolder p)).2 = some fault) : fault.cause ≠ .zeroByte := by
  cases hmake : d.makeFolder p with
  | ok d' =>
    rw [hmake] at h
    cases h
  | error cause =>
    rw [hmake, settle] at h
    split_ifs at h
    obtain rfl := Option.some.inj h
    rintro rfl
    exact makeFolder_zeroByte hp hmake

lemma makeFolders_zeroByte {fault : Fault} (hp : p.hasZero = false)
    (h : (d.makeFolders p).2 = some fault) : fault.cause ≠ .zeroByte := by
  fun_induction makeFolders d p with
  | case1 =>
    obtain rfl := Option.some.inj h
    simp
  | case2 p _ _ d' fault' hparent ih => exact ih (hasZero_parent hp) (by rw [hparent]; exact h)
  | case3 p _ _ d' hparent ih => exact settle_zeroByte hp h
  | case4 p => exact settle_zeroByte hp h

lemma overwrite_ok {bytes : List UInt8} (h : d.overwrite p bytes = .ok d') :
    d'.cwd = d.cwd ∧ ∀ q, d'.fileAt q = if q = d.target p then some bytes else d.fileAt q := by
  unfold overwrite at h
  split at h
  · cases h
  · next place hlocate =>
    split at h
    · cases h
    · next hentry =>
      obtain rfl := Except.ok.inj h
      obtain rfl := locate_eq_target hlocate
      exact ⟨rfl, fileAt_put_file (ne_nil_of_not_folder fun hfolder => hentry hfolder) bytes⟩

/-- A file that could not be written leaves every file as it was. -/
theorem write_fault {content : Text} {fault : Fault} (h : d.write p content = (d', some fault)) :
    d'.cwd = d.cwd ∧ ∀ q, d'.fileAt q = d.fileAt q := by
  unfold write writeBytes at h
  have hmore := makeFolders_moreFolders d p.parent
  split at h
  · next hfolders =>
    cases h
    rw [hfolders] at hmore
    exact ⟨hmore.cwd, hmore.fileAt⟩
  · next folders hfolders =>
    rw [hfolders] at hmore
    split at h
    · cases h
    · cases h
      exact ⟨hmore.cwd, hmore.fileAt⟩

/-- A file that was written holds the content, with a line feed at its end, and every other file is
as it was. -/
theorem write_done {content : Text} (h : d.write p content = (d', none)) :
    d'.cwd = d.cwd ∧ ∀ q, d'.fileAt q =
      if q = d.target p then some (Text.Utf8.encode (terminated content)) else d.fileAt q := by
  unfold write writeBytes at h
  have hmore := makeFolders_moreFolders d p.parent
  split at h
  · cases h
  · next folders hfolders =>
    rw [hfolders] at hmore
    split at h
    · next hwritten =>
      cases h
      obtain ⟨hcwd, hfile⟩ := overwrite_ok hwritten
      refine ⟨hcwd.trans hmore.cwd, fun q => ?_⟩
      rw [hfile q, hmore.target, hmore.fileAt]
    · cases h

lemma write_zeroByte {content : Text} {fault : Fault} (hp : p.hasZero = false)
    (h : d.write p content = (d', some fault)) : fault.cause ≠ .zeroByte := by
  unfold write writeBytes at h
  split at h
  · next hfolders =>
    cases h
    exact makeFolders_zeroByte (hasZero_parent hp) (by rw [hfolders])
  · split at h
    · cases h
    · next hover =>
      cases h
      rintro rfl
      unfold overwrite at hover
      split at hover
      · next hlocate =>
        obtain rfl := Except.error.inj hover
        exact locate_zeroByte hp hlocate
      · split at hover <;> cases hover

end Writing
end Shorthand.Disk
