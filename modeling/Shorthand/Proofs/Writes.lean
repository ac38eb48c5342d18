import Shorthand.Proofs.Disk

/-! Calls that write files, one after another. A call makes the folders that are missing on the way
to its file and then the file, or it fails somewhere on that way; so a call changes one file or
none, and folders are only ever added. -/
namespace Shorthand
open Text

/-- A step upwards, or a name that is not too long. -/
def Path.IsStep (step : Text) : Prop :=
  step = "..".toList ∨ (Utf8.encode step).length ≤ Disk.longestName

instance (step : Text) : Decidable (Path.IsStep step) := inferInstanceAs (Decidable (_ ∨ _))

/-- The operating system can be told the path: no zero byte is in it, and neither the path nor one
of its steps is too long. -/
structure Path.IsNameable (p : Path) : Prop where
  zero : p.hasZero = false
  whole : (Utf8.encode p.text).length ≤ Disk.longestPath
  steps : ∀ step ∈ p.steps, IsStep step

namespace Disk
variable {d d' : Disk} {p : Path} {here place q : Place} {steps : List Text} {content : Text}

/-- The places on the way that steps lead, the last one included. -/
def routeFrom (here : Place) : List Text → List Place
  | [] => [here]
  | step :: steps => here :: routeFrom (Path.follow here [step]) steps

/-- Where a path starts. -/
def origin (d : Disk) (p : Path) : Place := if p.root.isEmpty then d.cwd else []

/-- The places on the way of a path. -/
def route (d : Disk) (p : Path) : List Place := routeFrom (d.origin p) p.steps

/-- The path leads to a place where a file can be made: nothing on the way to it is a file, and it
is no folder, nor one that has to be made on the way. -/
structure Accepts (d : Disk) (p : Path) : Prop where
  nameable : p.IsNameable
  clear : ∀ q ∈ d.route p.parent, d.fileAt q = none
  apart : d.target p ∉ d.route p.parent
  noFolder : d.entry? (d.target p) ≠ some .folder

/-- A call to write a file, as it went. -/
structure Event where
  before : Disk
  path : Path
  content : Text
  fault : Option Fault
  after : Disk

/-- Calls to write files, one after another. -/
def events (d : Disk) : List (Path × Text) → List Event
  | [] => []
  | (p, content) :: calls =>
    ⟨d, p, content, (d.write p content).2, (d.write p content).1⟩ ::
      events (d.write p content).1 calls

section Routes

lemma follow_cons (here : Place) (step : Text) (steps : List Text) :
    Path.follow here (step :: steps) = Path.follow (Path.follow here [step]) steps :=
  follow_append here [step] steps

lemma routeFrom_ne_nil (here : Place) (steps : List Text) : routeFrom here steps ≠ [] := by
  cases steps <;> simp [routeFrom]

lemma dropLast_routeFrom_cons (here : Place) (step : Text) (steps : List Text) :
    (routeFrom here (step :: steps)).dropLast =
      here :: (routeFrom (Path.follow here [step]) steps).dropLast := by
  rw [routeFrom, List.dropLast_cons_of_ne_nil (routeFrom_ne_nil _ _)]

lemma routeFrom_concat (here : Place) (steps : List Text) (step : Text) :
    routeFrom here (steps ++ [step]) =
      routeFrom here steps ++ [Path.follow here (steps ++ [step])] := by
  induction steps generalizing here with
  | nil => rfl
  | cons first steps ih =>
    rw [List.cons_append, routeFrom, ih, ← follow_cons, routeFrom, List.cons_append]

/-- The way of a path is the way of its parent and one step. -/
lemma route_eq_concat (h : p.steps ≠ []) : d.route p = d.route p.parent ++ [d.target p] := by
  have hsteps := List.dropLast_concat_getLast h
  have hroute := routeFrom_concat (d.origin p) p.steps.dropLast (p.steps.getLast h)
  rw [hsteps] at hroute
  exact hroute

lemma dropLast_route (h : p.steps ≠ []) : (d.route p).dropLast = d.route p.parent := by
  rw [route_eq_concat h, List.dropLast_concat]

lemma route_of_no_steps (h : p.steps = []) : d.route p = [d.target p] := by
  simp [route, target, h, routeFrom, Path.follow, origin]

lemma target_mem_route (d : Disk) (p : Path) : d.target p ∈ d.route p := by
  by_cases h : p.steps = []
  · rw [route_of_no_steps h]
    exact List.mem_singleton_self _
  · rw [route_eq_concat h]
    exact List.mem_concat_self

lemma mem_route_iff (d : Disk) (p : Path) (q : Place) :
    q ∈ d.route p ↔ q ∈ (d.route p).dropLast ∨ q = d.target p := by
  by_cases h : p.steps = []
  · simp [route_of_no_steps h]
  · simp [route_eq_concat h]

lemma parent_of_no_steps (h : p.steps = []) : p.parent = p := by
  obtain ⟨root, steps⟩ := p
  obtain rfl : steps = [] := h
  rfl

lemma route_parent_subset (d : Disk) (p : Path) : d.route p.parent ⊆ d.route p := by
  by_cases h : p.steps = []
  · rw [parent_of_no_steps h]
    exact List.Subset.refl _
  · rw [route_eq_concat h]
    exact List.subset_append_left _ _

lemma route_of_cwd (h : d'.cwd = d.cwd) : d'.route p = d.route p := by
  rw [route, route, origin, origin, h]

lemma MoreFolders.folder (h : MoreFolders d d') (hq : d.entry? q = some .folder) :
    d'.entry? q = some .folder := by
  rcases h.entry q with hsame | ⟨hnone, -⟩
  · rw [hsame, hq]
  · rw [hnone] at hq
    cases hq

lemma fileAt_of_folder (h : d.entry? q = some .folder) : d.fileAt q = none := by
  rw [fileAt, h]

end Routes

section Walks

lemma walk_cons (h : d.entry? here = some .folder) (step : Text) (steps : List Text) :
    d.walk here (step :: steps) =
      if Path.IsStep step then d.walk (Path.follow here [step]) steps
      else .error .nameTooLong := by
  by_cases hup : step = "..".toList
  · have hstep : Path.IsStep step := .inl hup
    rw [walk, h, if_pos hstep, hup]
    rfl
  have hne : ¬(step == "..".toList) = true := by simpa using hup
  have hnext : Path.follow here [step] = here ++ [step] := by
    rw [Path.follow, if_neg hne, Path.follow]
  by_cases hlong : longestName < (Utf8.encode step).length
  · have hstep : ¬Path.IsStep step := fun hstep => hstep.elim hup (Nat.not_le.2 hlong)
    rw [walk, h, if_neg hstep]
    simp only [if_neg hne, if_pos hlong]
  · have hstep : Path.IsStep step := .inr (Nat.not_lt.1 hlong)
    rw [walk, h, if_pos hstep, hnext]
    simp only [if_neg hne, if_neg hlong]

/-- Steps can be taken if and only if each starts from a folder and none is too long. -/
lemma walk_eq_ok_iff : d.walk here steps = .ok place ↔
    (∀ step ∈ steps, Path.IsStep step) ∧
      (∀ q ∈ (routeFrom here steps).dropLast, d.entry? q = some .folder) ∧
      place = Path.follow here steps := by
  induction steps generalizing here with
  | nil => simp [walk, Path.follow, routeFrom, eq_comm]
  | cons step steps ih =>
    rw [dropLast_routeFrom_cons, List.forall_mem_cons, List.forall_mem_cons,
      follow_cons here step steps]
    cases hentry : d.entry? here with
    | none => simp [walk, hentry]
    | some entry =>
      cases entry with
      | file bytes => simp [walk, hentry]
      | folder =>
        rw [walk_cons hentry]
        by_cases hstep : Path.IsStep step
        · rw [if_pos hstep, ih]
          simp [hstep]
        · rw [if_neg hstep]
          simp [hstep]

/-- Where no file is in the way, steps that cannot be taken miss a folder. -/
lemma walk_of_clear {cause : Cause} (hsteps : ∀ step ∈ steps, Path.IsStep step)
    (hclear : ∀ q ∈ (routeFrom here steps).dropLast, d.fileAt q = none)
    (h : d.walk here steps = .error cause) : cause = .notFound := by
  induction steps generalizing here with
  | nil => cases h
  | cons step steps ih =>
    rw [dropLast_routeFrom_cons, List.forall_mem_cons] at hclear
    rw [List.forall_mem_cons] at hsteps
    cases hentry : d.entry? here with
    | none =>
      rw [walk, hentry] at h
      exact (Except.error.inj h).symm
    | some entry =>
      cases entry with
      | file bytes => simp [fileAt, hentry] at hclear
      | folder =>
        rw [walk_cons hentry, if_pos hsteps.1] at h
        exact ih hsteps.2 hclear.2 h

lemma locate_of_isNameable (h : p.IsNameable) : d.locate p = d.walk (d.origin p) p.steps := by
  have hwhole := h.whole
  rw [locate, h.zero, if_neg (by simp), if_neg (by omega), origin]

lemma locate_eq_ok_iff : d.locate p = .ok place ↔
    p.IsNameable ∧ (∀ q ∈ (d.route p).dropLast, d.entry? q = some .folder) ∧
      place = d.target p := by
  constructor
  · intro h
    unfold locate at h
    split at h
    · cases h
    next hzero =>
    split at h
    · cases h
    next hlong =>
    obtain ⟨hsteps, hfolders, hplace⟩ := walk_eq_ok_iff.1 h
    exact ⟨⟨by simpa using hzero, Nat.not_lt.1 hlong, hsteps⟩, hfolders, hplace⟩
  · rintro ⟨hname, hfolders, hplace⟩
    rw [locate_of_isNameable hname]
    exact walk_eq_ok_iff.2 ⟨hname.steps, hfolders, hplace⟩

lemma read_eq_ok {bytes : List UInt8} (hname : p.IsNameable)
    (habove : ∀ q ∈ (d.route p).dropLast, d.entry? q = some .folder)
    (hfile : d.entry? (d.target p) = some (.file bytes)) : d.read p = .ok bytes := by
  rw [read, find, locate_eq_ok_iff.2 ⟨hname, habove, rfl⟩]
  simp only [hfile]

lemma isFolder_iff : d.isFolder p = true ↔
    ∃ place, d.locate p = .ok place ∧ d.entry? place = some .folder := by
  unfold isFolder find
  cases d.locate p with
  | error cause => simp
  | ok place =>
    cases hentry : d.entry? place with
    | none => simp [hentry]
    | some entry => cases entry <;> simp [hentry]

end Walks

section Folders

lemma length_encode_append (s t : Text) :
    (Utf8.encode (s ++ t)).length = (Utf8.encode s).length + (Utf8.encode t).length := by
  rw [Utf8.encode, List.flatMap_append, List.length_append]
  rfl

lemma isNameable_parent (h : p.IsNameable) : p.parent.IsNameable := by
  refine ⟨hasZero_parent h.zero, ?_, fun step hstep => h.steps step (List.dropLast_subset _ hstep)⟩
  by_cases hsteps : p.steps = []
  · rw [parent_of_no_steps hsteps]
    exact h.whole
  -- The text of the parent is a point, or the text of the path begins with it.
  by_cases hpoint : p.root = [] ∧ p.steps.dropLast = []
  · have htext : p.parent.text = ".".toList := by simp [Path.text, Path.parent, hpoint]
    rw [htext]
    decide
  · have htext : p.parent.text = p.root ++ join ['/'] p.steps.dropLast := by
      simp [Path.text, Path.parent, hpoint]
    obtain ⟨rest, hrest⟩ : ∃ rest, p.text = p.parent.text ++ rest := by
      rw [htext, Path.text, if_neg (by simp [hsteps])]
      by_cases hone : p.steps.dropLast = []
      · exact ⟨join ['/'] p.steps, by simp [hone, join]⟩
      · refine ⟨['/'] ++ join ['/'] [p.steps.getLast hsteps], ?_⟩
        rw [List.append_assoc, ← List.append_assoc _ ['/'], ← join_append hone (by simp),
          List.dropLast_concat_getLast]
    have hwhole := h.whole
    rw [hrest, length_encode_append] at hwhole
    omega

lemma entry?_makeFolder (h : d.makeFolder p = .ok d') (q : Place) :
    d'.entry? q = if q = d.target p then some .folder else d.entry? q := by
  unfold makeFolder at h
  split at h
  · cases h
  · next place hlocate =>
    obtain rfl := locate_eq_target hlocate
    split at h
    · cases h
    · next hentry =>
      obtain rfl := Except.ok.inj h
      exact entry?_put (ne_nil_of_not_folder (by rw [hentry]; simp)) .folder q

/-- A folder that was made, or was there already, is there. -/
lemma entry?_settle (h : d.settle p (d.makeFolder p) = (d', none)) :
    d'.entry? (d.target p) = some .folder := by
  cases hmake : d.makeFolder p with
  | ok made =>
    rw [hmake, settle] at h
    obtain rfl := (Prod.mk.inj h).1
    rw [entry?_makeFolder hmake, if_pos rfl]
  | error cause =>
    rw [hmake, settle] at h
    split at h
    · next hfolder =>
      obtain rfl := (Prod.mk.inj h).1
      obtain ⟨place, hlocate, hentry⟩ := isFolder_iff.1 hfolder
      rwa [← locate_eq_target hlocate]
    · cases h

lemma entry?_makeFolders (h : d.makeFolders p = (d', none)) :
    d'.entry? (d.target p) = some .folder := by
  fun_induction makeFolders d p generalizing d' with
  | case1 => cases h
  | case2 => cases h
  | case3 p _ _ made hparent ih =>
    have hmore := makeFolders_moreFolders d p.parent
    rw [hparent] at hmore
    rw [← hmore.target p]
    exact entry?_settle h
  | case4 p => exact entry?_settle h

/-- An attempt to make a folder puts nothing in any other place. -/
lemma entry?_settle_of_ne (hq : q ≠ d.target p) :
    Disk.entry? (d.settle p (d.makeFolder p)).1 q = d.entry? q := by
  cases hmake : d.makeFolder p with
  | ok made => rw [settle, entry?_makeFolder hmake, if_neg hq]
  | error cause =>
    rw [settle]
    split_ifs
    · rfl
    · rfl

/-- Folders are made on the way of the path only. -/
lemma entry?_makeFolders_of_not_mem (hq : q ∉ d.route p) :
    Disk.entry? (d.makeFolders p).1 q = d.entry? q := by
  have hne {p : Path} (hq : q ∉ d.route p) : q ≠ d.target p := by
    rintro rfl
    exact hq (target_mem_route d p)
  fun_induction makeFolders d p with
  | case1 => rfl
  | case2 p _ _ made fault hparent ih =>
    rw [hparent] at ih
    exact ih fun hmem => hq (route_parent_subset d p hmem)
  | case3 p _ _ made hparent ih =>
    have hmore := makeFolders_moreFolders d p.parent
    rw [hparent] at ih hmore
    rw [entry?_settle_of_ne (by rw [hmore.target]; exact hne hq)]
    exact ih fun hmem => hq (route_parent_subset d p hmem)
  | case4 p => exact entry?_settle_of_ne (hne hq)

/-- One folder: it can be made where the folders above it are there and it is no file. -/
lemma settle_of_clear (hname : p.IsNameable)
    (habove : ∀ q ∈ (d.route p).dropLast, d.entry? q = some .folder)
    (hfile : d.fileAt (d.target p) = none) :
    ∃ d', d.settle p (d.makeFolder p) = (d', none) ∧
      ∀ q ∈ d.route p, d'.entry? q = some .folder := by
  have hlocate : d.locate p = .ok (d.target p) := locate_eq_ok_iff.2 ⟨hname, habove, rfl⟩
  cases hentry : d.entry? (d.target p) with
  | none =>
    have hmake : d.makeFolder p = .ok (d.put (d.target p) .folder) := by
      simp only [makeFolder, hlocate, hentry]
    rw [hmake, settle]
    refine ⟨_, rfl, fun q hq => ?_⟩
    rcases (mem_route_iff d p q).1 hq with hq | rfl
    · exact (moreFolders_put hentry).folder (habove q hq)
    · rw [entry?_put (ne_nil_of_not_folder (by rw [hentry]; simp)), if_pos rfl]
  | some entry =>
    cases entry with
    | file bytes => simp [fileAt, hentry] at hfile
    | folder =>
      have hmake : d.makeFolder p = .error .occupied := by
        simp only [makeFolder, hlocate, hentry]
      rw [hmake, settle, if_pos (isFolder_iff.2 ⟨_, hlocate, hentry⟩)]
      refine ⟨d, rfl, fun q hq => ?_⟩
      rcases (mem_route_iff d p q).1 hq with hq | rfl
      · exact habove q hq
      · exact hentry

lemma makeFolder_notFound_iff :
    d.makeFolder p = .error .notFound ↔ d.locate p = .error .notFound := by
  unfold makeFolder
  cases d.locate p with
  | error cause => simp
  | ok place => cases hentry : d.entry? place <;> simp [hentry]

/-- Where no file is in the way, all the folders of a path can be made. -/
lemma makeFolders_of_clear (hname : p.IsNameable) (hclear : ∀ q ∈ d.route p, d.fileAt q = none) :
    ∃ d', d.makeFolders p = (d', none) ∧ ∀ q ∈ d.route p, d'.entry? q = some .folder := by
  have htarget {p : Path} (hclear : ∀ q ∈ d.route p, d.fileAt q = none) :
      d.fileAt (d.target p) = none := hclear _ (target_mem_route d p)
  have habove {p : Path} (hclear : ∀ q ∈ d.route p, d.fileAt q = none) :
      ∀ q ∈ d.route p.parent, d.fileAt q = none :=
    fun q hq => hclear q (route_parent_subset d p hq)
  fun_induction makeFolders d p with
  | case1 p hmake hsteps =>
    have hlocate : d.locate p = .ok (d.target p) :=
      locate_eq_ok_iff.2 ⟨hname, by simp [route_of_no_steps hsteps], rfl⟩
    rw [makeFolder_notFound_iff, hlocate] at hmake
    cases hmake
  | case2 p _ _ made fault hparent ih =>
    obtain ⟨d', hmade, -⟩ := ih (isNameable_parent hname) (habove hclear)
    rw [hparent] at hmade
    cases hmade
  | case3 p _ hsteps made hparent ih =>
    -- The folders above are there now, and making them put no file in the way.
    obtain ⟨d', hmade, hfolders⟩ := ih (isNameable_parent hname) (habove hclear)
    have hmore := makeFolders_moreFolders d p.parent
    rw [hparent] at hmade hmore
    obtain rfl := (Prod.mk.inj hmade).1
    rw [← route_of_cwd hmore.cwd]
    apply settle_of_clear hname
    · rw [route_of_cwd hmore.cwd, dropLast_route hsteps]
      exact hfolders
    · rw [hmore.target, hmore.fileAt]
      exact htarget hclear
  | case4 p hmake =>
    cases hlocate : d.locate p with
    | error cause =>
      have hwalk := hlocate
      rw [locate_of_isNameable hname] at hwalk
      obtain rfl := walk_of_clear hname.steps
        (fun q hq => hclear q (List.dropLast_subset _ hq)) hwalk
      exact absurd (makeFolder_notFound_iff.2 hlocate) hmake
    | ok place =>
      exact settle_of_clear hname (locate_eq_ok_iff.1 hlocate).2.1 (htarget hclear)

end Folders

section Writes

lemma overwrite_eq_ok_iff {bytes : List UInt8} : d.overwrite p bytes = .ok d' ↔
    d.locate p = .ok (d.target p) ∧ d.entry? (d.target p) ≠ some .folder ∧
      d' = d.put (d.target p) (.file bytes) := by
  unfold overwrite
  cases hlocate : d.locate p with
  | error cause => simp
  | ok place =>
    obtain rfl := locate_eq_target hlocate
    cases hentry : d.entry? (d.target p) with
    | none => simp [hentry, eq_comm]
    | some entry => cases entry <;> simp [hentry, eq_comm]

/-- What a call can do: it stops when some of the folders are made, or it makes folders of all
places on the way and then the file. -/
lemma write_cases (d : Disk) (p : Path) (content : Text) :
    (∃ fault, d.write p content = ((d.makeFolders p.parent).1, some fault)) ∨
      (p.IsNameable ∧
        (∀ q ∈ d.route p.parent, Disk.entry? (d.makeFolders p.parent).1 q = some .folder) ∧
        Disk.entry? (d.makeFolders p.parent).1 (d.target p) ≠ some .folder ∧
        d.write p content = ((d.makeFolders p.parent).1.put (d.target p)
          (.file (Utf8.encode (terminated content))), none)) := by
  have hmore := makeFolders_moreFolders d p.parent
  rw [write, writeBytes]
  rcases hmade : d.makeFolders p.parent with ⟨made, _ | fault⟩
  · rw [hmade] at hmore
    cases hover : made.overwrite p (Utf8.encode (terminated content)) with
    | error cause => exact .inl ⟨⟨cause, p⟩, by simp only [hover]⟩
    | ok written =>
      obtain ⟨hlocate, hfolder, rfl⟩ := overwrite_eq_ok_iff.1 hover
      obtain ⟨hname, habove, -⟩ := locate_eq_ok_iff.1 hlocate
      rw [hmore.target] at hfolder hover
      have hsteps : p.steps ≠ [] := by
        intro hnone
        rw [parent_of_no_steps hnone] at hmade
        exact hfolder (entry?_makeFolders hmade)
      rw [dropLast_route hsteps, route_of_cwd hmore.cwd] at habove
      exact .inr ⟨hname, habove, hfolder, by simp only [hover]⟩
  · exact .inl ⟨fault, rfl⟩

lemma write_eq_put (h : (d.write p content).2 = none) :
    p.IsNameable ∧
      (∀ q ∈ d.route p.parent, Disk.entry? (d.makeFolders p.parent).1 q = some .folder) ∧
      Disk.entry? (d.makeFolders p.parent).1 (d.target p) ≠ some .folder ∧
      (d.write p content).1 = (d.makeFolders p.parent).1.put (d.target p)
        (.file (Utf8.encode (terminated content))) := by
  rcases write_cases d p content with ⟨fault, hfault⟩ | ⟨hname, hfolders, hfolder, hdone⟩
  · rw [hfault] at h
    cases h
  · exact ⟨hname, hfolders, hfolder, by rw [hdone]⟩

lemma Accepts.steps_ne_nil (h : d.Accepts p) : p.steps ≠ [] := by
  intro hnone
  apply h.apart
  rw [parent_of_no_steps hnone]
  exact target_mem_route d p

lemma accepts_of_write (h : (d.write p content).2 = none) : d.Accepts p := by
  have hmore := makeFolders_moreFolders d p.parent
  obtain ⟨hname, hfolders, hfolder, -⟩ := write_eq_put h
  refine ⟨hname, fun q hq => ?_, fun hmem => ?_, fun hentry => ?_⟩
  · rw [← hmore.fileAt]
    exact fileAt_of_folder (hfolders q hq)
  · exact hfolder (hfolders _ hmem)
  · exact hfolder (hmore.folder hentry)

/-- A call succeeds wherever its path is accepted. -/
lemma write_of_accepts (h : d.Accepts p) (content : Text) : (d.write p content).2 = none := by
  obtain ⟨made, hmade, hfolders⟩ := makeFolders_of_clear (isNameable_parent h.nameable) h.clear
  have hmore := makeFolders_moreFolders d p.parent
  have hsame := entry?_makeFolders_of_not_mem h.apart
  rw [hmade] at hmore hsame
  have hlocate : made.locate p = .ok (made.target p) := by
    refine locate_eq_ok_iff.2 ⟨h.nameable, ?_, rfl⟩
    rwa [route_of_cwd hmore.cwd, dropLast_route h.steps_ne_nil]
  have hentry : made.entry? (made.target p) ≠ some .folder := by
    rw [hmore.target, hsame]
    exact h.noFolder
  have hover := overwrite_eq_ok_iff.2
    ⟨hlocate, hentry, Eq.refl (made.put (made.target p) (.file (Utf8.encode (terminated content))))⟩
  rw [write, writeBytes, hmade]
  simp only [hover]

/-- What is at a place after a call that succeeded. -/
lemma entry?_write (h : (d.write p content).2 = none) (q : Place) :
    Disk.entry? (d.write p content).1 q =
      if q = d.target p then some (.file (Utf8.encode (terminated content)))
      else Disk.entry? (d.makeFolders p.parent).1 q := by
  obtain ⟨-, -, hfolder, hput⟩ := write_eq_put h
  rw [hput, entry?_put (ne_nil_of_not_folder hfolder)]

lemma write_folder (d : Disk) (p : Path) (content : Text) (hq : d.entry? q = some .folder) :
    Disk.entry? (d.write p content).1 q = some .folder := by
  have hmade := (makeFolders_moreFolders d p.parent).folder hq
  rcases write_cases d p content with ⟨fault, hfault⟩ | ⟨-, -, hfolder, hdone⟩
  · rw [hfault]
    exact hmade
  · rw [entry?_write (by rw [hdone]), if_neg, hmade]
    rintro rfl
    exact hfolder hmade

/-- A file that was written can be read back. -/
lemma read_of_write (h : (d.write p content).2 = none) :
    (d.write p content).1.read p = .ok (Utf8.encode (terminated content)) := by
  have haccepts := accepts_of_write h
  have hcwd : (d.write p content).1.cwd = d.cwd := (write_done (Prod.ext rfl h)).1
  apply read_eq_ok haccepts.nameable
  · rw [route_of_cwd hcwd, dropLast_route haccepts.steps_ne_nil]
    intro q hq
    rw [entry?_write h, if_neg, (write_eq_put h).2.1 q hq]
    rintro rfl
    exact haccepts.apart hq
  · rw [target_of_cwd hcwd, entry?_write h, if_pos rfl]

/-- New folders are on the way to the file, where nothing was before. -/
lemma folder_of_write (h : Disk.entry? (d.write p content).1 q = some .folder) :
    d.entry? q = some .folder ∨ d.entry? q = none ∧ q ∈ d.route p.parent := by
  have hmade : Disk.entry? (d.makeFolders p.parent).1 q = some .folder := by
    rcases write_cases d p content with ⟨fault, hfault⟩ | ⟨-, -, -, hdone⟩
    · rwa [hfault] at h
    · rw [entry?_write (by rw [hdone])] at h
      split at h
      · cases h
      · exact h
  by_cases hq : q ∈ d.route p.parent
  · rcases (makeFolders_moreFolders d p.parent).entry q with hsame | ⟨hnone, -⟩
    · exact .inl (hsame ▸ hmade)
    · exact .inr ⟨hnone, hq⟩
  · rw [entry?_makeFolders_of_not_mem hq] at hmade
    exact .inl hmade

/-- Of the files, a call changes the one it leads to, and only when it succeeds. -/
lemma fileAt_write (hq : (d.write p content).2 = none → q ≠ d.target p) :
    (d.write p content).1.fileAt q = d.fileAt q := by
  rcases hwrite : d.write p content with ⟨d', _ | fault⟩
  · rw [(write_done hwrite).2 q, if_neg (hq (by rw [hwrite]))]
  · exact (write_fault hwrite).2 q

end Writes

/-- Each call of a run starts from a disk with all the folders that were there before. -/
lemma mem_events {calls : List (Path × Text)} {e : Event} (h : e ∈ d.events calls) :
    e.fault = (e.before.write e.path e.content).2 ∧ e.after = (e.before.write e.path e.content).1 ∧
      ∀ q, d.entry? q = some .folder → e.before.entry? q = some .folder := by
  induction calls generalizing d with
  | nil => cases h
  | cons call calls ih =>
    obtain ⟨p, content⟩ := call
    rcases List.mem_cons.1 h with rfl | hlater
    · exact ⟨rfl, rfl, fun _ hq => hq⟩
    · obtain ⟨hfault, hafter, hfolders⟩ := ih hlater
      exact ⟨hfault, hafter, fun q hq => hfolders q (write_folder d p content hq)⟩

/-- In every run of calls, each call that succeeds gives one file its content, with a line feed at
its end, and leaves all other files as they were, and each call that fails leaves all files as they
were. A call succeeds exactly where nothing is in its way, and folders are added, on the way to the
file, and never removed. -/
theorem each_write_changes_one_file_or_none (d : Disk) (calls : List (Path × Text)) {e : Event}
    (he : e ∈ d.events calls) :
    (e.fault = none ↔ e.before.Accepts e.path) ∧
      (e.fault = none →
        e.after.read e.path = .ok (Utf8.encode
          (if e.content.getLast? = some '\n' then e.content else e.content ++ ['\n'])) ∧
        ∀ q, q ≠ e.before.target e.path → e.after.fileAt q = e.before.fileAt q) ∧
      (e.fault ≠ none → ∀ q, e.after.fileAt q = e.before.fileAt q) ∧
      (∀ q, d.entry? q = some .folder ∨ e.before.entry? q = some .folder →
        e.after.entry? q = some .folder) ∧
      ∀ q, e.after.entry? q = some .folder →
        e.before.entry? q = some .folder ∨
          e.before.entry? q = none ∧ q ∈ e.before.route e.path.parent := by
  obtain ⟨hfault, hafter, hfolders⟩ := mem_events he
  rw [hfault, hafter]
  refine ⟨⟨accepts_of_write, fun h => write_of_accepts h e.content⟩, fun h => ⟨?_, fun q hq => ?_⟩,
    fun h q => ?_, ?_, fun q => folder_of_write⟩
  · simpa [terminated, endsIn] using read_of_write h
  · exact fileAt_write fun _ => hq
  · exact fileAt_write fun hdone => absurd hdone h
  · rintro q (hq | hq)
    · exact write_folder _ _ _ (hfolders q hq)
    · exact write_folder _ _ _ hq

/-- A folder with a file in it. -/
def crowdedDisk : Disk :=
  ⟨["w".toList], [(["w".toList], .folder), (["w".toList, "f".toList], .file [0x78])]⟩

/-- The second path leads through a folder that is missing to a file in the place of a folder. -/
def mixedCalls : List (Path × Text) :=
  [(⟨[], ["a".toList, "..".toList, "b".toList, "c".toList]⟩, "t".toList),
    (⟨[], ["n".toList, "..".toList, "f".toList, "c".toList]⟩, "t".toList)]

/-- The first call makes two folders and a file; the second one makes a folder and then fails. -/
theorem mixed_calls_change_one_file :
    ∃ e e', crowdedDisk.events mixedCalls = [e, e'] ∧
      e.fault = none ∧ e.after.read e.path = .ok (Utf8.encode "t\n".toList) ∧
      e.after.fileAt ["w".toList, "f".toList] = some [0x78] ∧
      e'.fault = some ⟨.occupied, ⟨[], ["n".toList, "..".toList, "f".toList]⟩⟩ ∧
      e'.after.fileAt ["w".toList, "b".toList, "c".toList] = some (Utf8.encode "t\n".toList) ∧
      e'.after.entry? ["w".toList, "n".toList] = some .folder ∧
      (∀ q, e'.after.fileAt q = e'.before.fileAt q) ∧
      ∀ q, crowdedDisk.entry? q = some .folder → e'.after.entry? q = some .folder := by
  obtain ⟨-, hdone, -⟩ :=
    each_write_changes_one_file_or_none crowdedDisk mixedCalls List.mem_cons_self
  obtain ⟨-, -, hfiles, hfolders, -⟩ := each_write_changes_one_file_or_none crowdedDisk mixedCalls
    (List.mem_cons_of_mem _ List.mem_cons_self)
  refine ⟨_, _, rfl, by decide +kernel, (hdone (by decide +kernel)).1, by decide +kernel,
    by decide +kernel, by decide +kernel, by decide +kernel, fun q => ?_, fun q hq => ?_⟩
  · exact hfiles (by decide +kernel) q
  · exact hfolders q (.inl hq)

end Disk
end Shorthand
