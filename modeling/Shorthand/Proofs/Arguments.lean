import Shorthand.Proofs.CommandLine

/-! The arguments of a command. A flag in front of them is followed first, and those behind it are read
as they are without it; wherever flags stand, all are followed, and nothing is set but what an option
offers. -/
namespace Shorthand.CommandLine
variable {σ : Type} {declared : List (Declared σ)}

lemma bind_eq_next (f g : Scan σ → Except Stop (Scan σ)) :
    (fun scan => f scan >>= g) = fun scan => match f scan with
      | .error stop => .error stop
      | .ok scan => g scan := by
  funext scan
  cases f scan <;> rfl

/-- The same scan, with settings from before it. -/
def Scan.after (earlier : List σ) (scan : Scan σ) : Scan σ :=
  { scan with settings := earlier ++ scan.settings }

section After
variable (earlier : List σ)

/-- Whatever is done with a scan is done alike with earlier settings. -/
def Uniform (f : Scan σ → Except Stop (Scan σ)) : Prop :=
  ∀ scan, f (scan.after earlier) = (f scan).map (Scan.after earlier)

variable {earlier}

lemma uniform_error (stop : Stop) : Uniform earlier fun _ => .error stop := fun _ => rfl

lemma Uniform.next {f g : Scan σ → Except Stop (Scan σ)} (hf : Uniform earlier f)
    (hg : Uniform earlier g) : Uniform earlier fun scan => match f scan with
      | .error stop => .error stop
      | .ok scan => g scan := by
  intro scan
  dsimp only
  rw [hf]
  cases f scan with
  | error stop => rfl
  | ok next => exact hg next

lemma Uniform.bind {f g : Scan σ → Except Stop (Scan σ)} (hf : Uniform earlier f)
    (hg : Uniform earlier g) : Uniform earlier fun scan => f scan >>= g := by
  rw [bind_eq_next]
  exact hf.next hg

lemma uniform_carryOut (o : Declared σ) : Uniform earlier fun scan => carryOut scan o := by
  intro scan
  unfold carryOut
  cases o.action <;> simp [Scan.after, Except.map]

lemma uniform_carryOutWith (o : Declared σ) (value : Text) :
    Uniform earlier fun scan => carryOutWith scan o value := by
  intro scan
  unfold carryOutWith
  cases o.action with
  | value read without =>
    dsimp only
    cases (if value == "--".toList then .ok without else read value) <;>
      simp [Scan.after, Except.map]
  | _ => rfl

lemma uniform_flags (flags : List (Declared σ)) :
    Uniform earlier fun scan => flags.foldlM carryOut scan := by
  induction flags with
  | nil => exact fun scan => rfl
  | cons o flags ih =>
    simp only [List.foldlM_cons]
    exact (uniform_carryOut o).bind ih

/-- Reading arguments does not look at the settings so far. -/
theorem uniform_scanFrom (taking : Taking) : (kinds : List (Argument σ)) →
    Uniform earlier fun scan => scanFrom declared taking scan kinds
  | [] => fun scan => by simp only [scanFrom]; rfl
  | .word s :: rest => by
    intro scan
    cases taking with
    | none | hyphens =>
      simp only [scanFrom]
      exact uniform_scanFrom .none rest { scan with extras := scan.extras ++ [s] }
    | run | running =>
      simp only [scanFrom]
      exact uniform_scanFrom .running rest { scan with words := scan.words ++ [s] }
  | .dashes :: rest => by
    intro scan
    cases taking with
    | none =>
      simp only [scanFrom]
      exact uniform_scanFrom .none rest { scan with extras := scan.extras ++ ["--".toList] }
    | hyphens =>
      simp only [scanFrom]
      exact uniform_scanFrom .none rest scan
    | run | running =>
      simp only [scanFrom]
      exact uniform_scanFrom .running rest scan
  | .unknown s :: rest => by
    intro scan
    simp only [scanFrom]
    exact uniform_scanFrom _ rest { scan with extras := scan.extras ++ [s] }
  | .option o name value :: rest => by
    unfold scanFrom
    dsimp only
    -- What is followed is settled by the arguments alone, in each of these cases.
    split
    · exact uniform_error _
    · split
      · exact ((uniform_flags _).bind (uniform_carryOutWith _ _)).next (uniform_scanFrom _ rest)
      · split
        · split
          · exact ((uniform_flags _).bind (uniform_carryOutWith _ _)).next (uniform_scanFrom _ _)
          · exact uniform_error _
        · exact ((uniform_flags _).bind (uniform_carryOut _)).next (uniform_scanFrom _ rest)
  termination_by kinds => kinds.length

end After

section Flag
variable {flag : Text} {setting : σ}

/-- The name is that of a flag with this setting. -/
def IsFlag (declared : List (Declared σ)) (flag : Text) (setting : σ) : Prop :=
  flag ≠ "--".toList ∧ ∃ names, classify declared flag = .ok (.option ⟨names, .flag setting⟩ flag none)

lemma scan_cons (h : IsFlag declared flag setting) (arguments : List Text) :
    scan declared .hyphens (flag :: arguments) =
      (scan declared .hyphens arguments).map (Scan.after [setting]) := by
  obtain ⟨hdashes, names, hflag⟩ := h
  have hfirst : ∀ kinds, scanFrom declared .hyphens {}
      (.option ⟨names, .flag setting⟩ flag none :: kinds) =
      scanFrom declared .hyphens (Scan.after [setting] {}) kinds := by
    intro kinds
    conv_lhs => unfold scanFrom
    rfl
  rw [scan, scan, classifyAll_cons hdashes hflag]
  cases classifyAll declared arguments with
  | error f => rfl
  | ok kinds => exact (hfirst kinds).trans (uniform_scanFrom .hyphens kinds {})

/-- A flag in front adds its setting to what the arguments behind it say. -/
theorem readMixed_cons (h : IsFlag declared flag setting) (arguments : List Text) :
    readMixed declared (flag :: arguments) =
      (readMixed declared arguments).map fun r => (setting :: r.1, r.2) := by
  rw [readMixed, readMixed, scan_cons h]
  cases scan declared .hyphens arguments with
  | error stop => rfl
  | ok first =>
    have hextras : (first.after [setting]).extras = first.extras := rfl
    simp only [Except.map, bind, Except.bind, hextras]
    cases scan declared .run first.extras with
    | error stop => rfl
    | ok second =>
      simp only [complete]
      cases second.extras.isEmpty <;> rfl

end Flag

section Settings

/-- What an option can set. -/
inductive Action.Gives : Action σ → σ → Prop
  | flag (setting : σ) : Gives (.flag setting) setting
  | without (read : Text → Except ValueFault σ) (setting : σ) : Gives (.value read setting) setting
  | read {read : Text → Except ValueFault σ} {without setting : σ} {value : Text} :
      read value = .ok setting → Gives (.value read without) setting

/-- What some option can set. -/
def Offers (declared : List (Declared σ)) (setting : σ) : Prop :=
  ∃ o ∈ declared, o.action.Gives setting

lemma named?_mem {name : Text} {o : Declared σ} (h : named? declared name = some o) : o ∈ declared :=
  List.mem_of_find?_eq_some h

lemma candidates_mem {s name : Text} {o : Declared σ} {value : Option Text}
    (h : (o, name, value) ∈ candidates declared s) : o ∈ declared := by
  unfold candidates at h
  obtain ⟨o', ho', h⟩ := List.mem_flatMap.mp h
  obtain ⟨name', -, h⟩ := List.mem_filterMap.mp h
  split_ifs at h
  · obtain rfl : o' = o := congrArg Prod.fst (Option.some.inj h)
    exact ho'
  · obtain rfl : o' = o := congrArg Prod.fst (Option.some.inj h)
    exact ho'
  · obtain rfl : o' = o := congrArg Prod.fst (Option.some.inj h)
    exact ho'

/-- An argument is taken only for an option that is declared. -/
lemma classify_mem {s name : Text} {o : Declared σ} {value : Option Text}
    (h : classify declared s = .ok (.option o name value)) : o ∈ declared := by
  unfold classify at h
  split at h
  · cases h
  split at h
  · next hnamed =>
    cases h
    exact named?_mem hnamed
  split at h
  · cases h
  split at h
  · next hnamed =>
    cases h
    exact named?_mem hnamed
  split at h
  · next hone =>
    cases h
    exact candidates_mem (by rw [hone]; exact List.mem_singleton_self _)
  · split at h <;> cases h
  · cases h

lemma classifyAll_mem {arguments : List Text} {kinds : List (Argument σ)}
    (h : classifyAll declared arguments = .ok kinds) {o : Declared σ} {name : Text}
    {value : Option Text} (ho : .option o name value ∈ kinds) : o ∈ declared := by
  induction arguments generalizing kinds with
  | nil =>
    cases h
    cases ho
  | cons s arguments ih =>
    unfold classifyAll at h
    split at h
    · cases h
      simp at ho
    split at h
    · cases h
    · next a ha =>
      obtain ⟨kinds', hkinds', rfl⟩ := exists_of_map_ok h
      rcases List.mem_cons.mp ho with rfl | ho
      · exact classify_mem ha
      · exact ih hkinds' ho

/-- Options that share a hyphen are declared. -/
lemma cluster_mem {o : Declared σ} {short : Bool} {value : Text} {flags : List (Declared σ)}
    {last : Declared σ} {left : Option Text} (ho : o ∈ declared)
    (h : cluster declared o short value = .ok (flags, last, left)) :
    (∀ f ∈ flags, f ∈ declared) ∧ last ∈ declared := by
  induction value generalizing o short flags with
  | nil =>
    unfold cluster at h
    split_ifs at h
    cases h
    exact ⟨nofun, ho⟩
  | cons c rest ih =>
    unfold cluster at h
    split at h
    · cases h
      exact ⟨nofun, ho⟩
    split at h
    · split at h
      · cases h
      · next next hnext =>
        have hmem := named?_mem hnext
        split at h
        · cases h
          exact ⟨List.forall_mem_singleton.mpr ho, hmem⟩
        · obtain ⟨⟨flags', last', left'⟩, hrest, heq⟩ := exists_of_map_ok h
          cases heq
          obtain ⟨hflags, hlast⟩ := ih hmem hrest
          exact ⟨List.forall_mem_cons.mpr ⟨ho, hflags⟩, hlast⟩
    · cases h

/-- The setting of a flag. -/
def Declared.flag? (o : Declared σ) : Option σ :=
  match o.action with
  | .flag setting => some setting
  | _ => none

lemma flag?_of_takesValue {o : Declared σ} (h : takesValue o = true) : o.flag? = none := by
  unfold takesValue at h
  unfold Declared.flag?
  split at h
  · next haction => rw [haction]
  · cases h

/-- The settings of the flags among arguments. -/
def flagsAmong (kinds : List (Argument σ)) : List σ :=
  kinds.filterMap fun
    | .option o _ none => o.flag?
    | _ => none

/-- Settings are only added; each is offered, and those of `flags` are among them. -/
def Adds (declared : List (Declared σ)) (flags : List σ) (f : Scan σ → Except Stop (Scan σ)) : Prop :=
  ∀ scan result, f scan = .ok result → ∃ more, result.settings = scan.settings ++ more ∧
    (∀ setting ∈ more, Offers declared setting) ∧ flags ⊆ more

lemma adds_error (flags : List σ) (stop : Stop) : Adds declared flags fun _ => .error stop := nofun

lemma adds_ok : Adds declared [] (Except.ok : Scan σ → Except Stop (Scan σ)) := by
  intro scan result h
  cases h
  exact ⟨[], (List.append_nil _).symm, nofun, List.nil_subset _⟩

variable {flags flags' : List σ} {f g : Scan σ → Except Stop (Scan σ)}

lemma Adds.mono (h : Adds declared flags f) (hsub : flags' ⊆ flags) : Adds declared flags' f := by
  intro scan result hresult
  obtain ⟨more, hmore, hoffers, hflags⟩ := h scan result hresult
  exact ⟨more, hmore, hoffers, List.Subset.trans hsub hflags⟩

lemma Adds.next (hf : Adds declared flags f) (hg : Adds declared flags' g) :
    Adds declared (flags ++ flags') fun scan => match f scan with
      | .error stop => .error stop
      | .ok scan => g scan := by
  intro scan result h
  dsimp only at h
  split at h
  · cases h
  · next middle hmiddle =>
    obtain ⟨more, hmore, hoffers, hflags⟩ := hf scan middle hmiddle
    obtain ⟨more', hmore', hoffers', hflags'⟩ := hg middle result h
    refine ⟨more ++ more', ?_, List.forall_mem_append.mpr ⟨hoffers, hoffers'⟩, ?_⟩
    · rw [hmore', hmore, List.append_assoc]
    · exact List.append_subset.mpr ⟨List.subset_append_of_subset_left _ hflags,
        List.subset_append_of_subset_right _ hflags'⟩

lemma Adds.bind (hf : Adds declared flags f) (hg : Adds declared flags' g) :
    Adds declared (flags ++ flags') fun scan => f scan >>= g := by
  rw [bind_eq_next]
  exact hf.next hg

lemma adds_carryOut {o : Declared σ} (ho : o ∈ declared) :
    Adds declared o.flag?.toList fun scan => carryOut scan o := by
  intro scan result h
  dsimp only [carryOut] at h
  split at h
  · cases h
  · cases h
  · next setting haction =>
    cases h
    refine ⟨[setting], rfl, List.forall_mem_singleton.mpr ⟨o, ho, ?_⟩, ?_⟩
    · rw [haction]
      exact .flag setting
    · simp [Declared.flag?, haction]
  · cases h

lemma adds_carryOutWith {o : Declared σ} (ho : o ∈ declared) (value : Text) :
    Adds declared [] fun scan => carryOutWith scan o value := by
  intro scan result h
  dsimp only [carryOutWith] at h
  split at h
  · next read without haction =>
    split at h
    · next setting hsetting =>
      cases h
      refine ⟨[setting], rfl, List.forall_mem_singleton.mpr ⟨o, ho, ?_⟩, List.nil_subset _⟩
      rw [haction]
      split_ifs at hsetting
      · cases hsetting
        exact .without read _
      · exact .read hsetting
    · cases h
  · cases h

lemma adds_cluster {options : List (Declared σ)} (h : ∀ o ∈ options, o ∈ declared) :
    Adds declared [] fun scan => options.foldlM carryOut scan := by
  induction options with
  | nil => exact adds_ok
  | cons o options ih =>
    rw [List.forall_mem_cons] at h
    simp only [List.foldlM_cons]
    exact ((adds_carryOut h.1).bind (ih h.2)).mono (List.nil_subset _)

/-- Reading arguments adds what the options among them offer, and follows every flag. -/
theorem adds_scanFrom (taking : Taking) : (kinds : List (Argument σ)) →
    (∀ o name value, .option o name value ∈ kinds → o ∈ declared) →
    Adds declared (flagsAmong kinds) fun scan => scanFrom declared taking scan kinds
  | [], _ => by
    simp only [scanFrom]
    exact adds_ok
  | .word s :: rest, hkinds => by
    have hrest := fun o name value ho => hkinds o name value (List.mem_cons_of_mem _ ho)
    intro scan result h
    cases taking with
    | none | hyphens =>
      simp only [scanFrom] at h
      exact adds_scanFrom .none rest hrest { scan with extras := scan.extras ++ [s] } result h
    | run | running =>
      simp only [scanFrom] at h
      exact adds_scanFrom .running rest hrest { scan with words := scan.words ++ [s] } result h
  | .dashes :: rest, hkinds => by
    have hrest := fun o name value ho => hkinds o name value (List.mem_cons_of_mem _ ho)
    intro scan result h
    cases taking with
    | none =>
      simp only [scanFrom] at h
      exact adds_scanFrom .none rest hrest
        { scan with extras := scan.extras ++ ["--".toList] } result h
    | hyphens =>
      simp only [scanFrom] at h
      exact adds_scanFrom .none rest hrest scan result h
    | run | running =>
      simp only [scanFrom] at h
      exact adds_scanFrom .running rest hrest scan result h
  | .unknown s :: rest, hkinds => by
    have hrest := fun o name value ho => hkinds o name value (List.mem_cons_of_mem _ ho)
    intro scan result h
    simp only [scanFrom] at h
    exact adds_scanFrom _ rest hrest { scan with extras := scan.extras ++ [s] } result h
  | .option o name value :: rest, hkinds => by
    have ho := hkinds o name value List.mem_cons_self
    have hrest := fun o name value ho => hkinds o name value (List.mem_cons_of_mem _ ho)
    unfold scanFrom
    dsimp only
    split
    · exact adds_error _ _
    · next shared last left hgrouped =>
      obtain ⟨⟨hshared, hlast⟩, halone⟩ : ((∀ f ∈ shared, f ∈ declared) ∧ last ∈ declared) ∧
          (value = none → last = o ∧ left = none) := by
        cases value with
        | none =>
          cases hgrouped
          exact ⟨⟨List.forall_mem_nil _, ho⟩, fun _ => ⟨rfl, rfl⟩⟩
        | some value => exact ⟨cluster_mem ho hgrouped, by simp⟩
      -- A flag stands alone, so that it is the option that is followed last.
      have hflags : flagsAmong (.option o name value :: rest) ⊆
          (if left.isSome then [] else last.flag?.toList) ++ flagsAmong rest := by
        cases value with
        | none =>
          obtain ⟨rfl, rfl⟩ := halone rfl
          cases hflag : last.flag? <;> simp [flagsAmong, hflag]
        | some value => exact List.subset_append_right _ _
      split
      · exact (((adds_cluster hshared).bind (adds_carryOutWith hlast _)).next
          (adds_scanFrom _ rest hrest)).mono hflags
      · split
        · next htakes =>
          rw [flag?_of_takesValue htakes] at hflags
          split
          · next value rest' =>
            exact (((adds_cluster hshared).bind (adds_carryOutWith hlast _)).next
              (adds_scanFrom _ rest' fun o name value ho =>
                hrest o name value (List.mem_cons_of_mem _ ho))).mono hflags
          · exact adds_error _ _
        · exact (((adds_cluster hshared).bind (adds_carryOut hlast)).next
            (adds_scanFrom _ rest hrest)).mono hflags
  termination_by kinds => kinds.length

variable {arguments : List Text} {setting : σ}

lemma mem_classifyAll {kinds : List (Argument σ)} {a : Text} {kind : Argument σ}
    (h : classifyAll declared arguments = .ok kinds)
    (ha : a ∈ arguments.takeWhile (· != "--".toList)) (hkind : classify declared a = .ok kind) :
    kind ∈ kinds := by
  induction arguments generalizing kinds with
  | nil => cases ha
  | cons s arguments ih =>
    cases hdashes : s == "--".toList with
    | true =>
      simp only [List.takeWhile_cons, bne, hdashes, Bool.not_true, Bool.false_eq_true, if_false] at ha
      cases ha
    | false =>
      simp only [List.takeWhile_cons, bne, hdashes, Bool.not_false, if_true] at ha
      simp only [classifyAll, hdashes] at h
      cases hs : classify declared s with
      | error f => simp [hs] at h
      | ok k =>
        simp only [hs, Bool.false_eq_true, if_false] at h
        obtain ⟨kinds', hkinds', rfl⟩ := exists_of_map_ok h
        rcases List.mem_cons.mp ha with rfl | ha
        · cases hs.symm.trans hkind
          exact List.mem_cons_self
        · exact List.mem_cons_of_mem _ (ih hkinds' ha)

/-- A flag with this setting is among the arguments, ahead of two hyphens and by its name or an
abbreviation of it. -/
def GivesFlag (declared : List (Declared σ)) (arguments : List Text) (setting : σ) : Prop :=
  ∃ a ∈ arguments.takeWhile (· != "--".toList), ∃ o name,
    classify declared a = .ok (.option o name none) ∧ o.flag? = some setting

lemma scan_settings {taking : Taking} {result : Scan σ}
    (h : scan declared taking arguments = .ok result) :
    (∀ setting ∈ result.settings, Offers declared setting) ∧
      ∀ setting, GivesFlag declared arguments setting → setting ∈ result.settings := by
  unfold scan at h
  split at h
  · cases h
  · next kinds hkinds =>
    obtain ⟨more, hmore, hoffers, hflags⟩ := adds_scanFrom taking kinds
      (fun o name value ho => classifyAll_mem hkinds ho) {} result h
    obtain rfl : result.settings = more := hmore
    refine ⟨hoffers, ?_⟩
    rintro setting ⟨a, ha, o, name, hkind, hflag⟩
    exact hflags (List.mem_filterMap.mpr ⟨_, mem_classifyAll hkinds ha hkind, hflag⟩)

/-- What the arguments of a command set is offered by its options, and no flag is overlooked. -/
theorem readMixed_settings {settings : List σ} {words : List Text}
    (h : readMixed declared arguments = .ok (settings, words)) :
    (∀ setting ∈ settings, Offers declared setting) ∧
      ∀ setting, GivesFlag declared arguments setting → setting ∈ settings := by
  unfold readMixed at h
  cases hfirst : scan declared .hyphens arguments with
  | error stop =>
    rw [hfirst] at h
    cases h
  | ok first =>
    rw [hfirst] at h
    cases hsecond : scan declared .run first.extras with
    | error stop =>
      simp only [bind, Except.bind, hsecond] at h
      cases h
    | ok second =>
      simp only [bind, Except.bind, hsecond, complete] at h
      split_ifs at h
      obtain rfl : first.settings ++ second.settings = settings :=
        congrArg Prod.fst (Except.ok.inj h)
      obtain ⟨hoffers, hflags⟩ := scan_settings hfirst
      refine ⟨List.forall_mem_append.mpr ⟨hoffers, (scan_settings hsecond).1⟩, fun setting hgives => ?_⟩
      exact List.mem_append_left _ (hflags setting hgives)

end Settings

namespace Invocation

/-- The same, but as a dry run. -/
def dry (i : Invocation) : Invocation := { i with dryRun := true }

lemma follow_dry (i : Invocation) (s : Setting) : i.dry.follow s = (i.follow s).dry := by
  cases s <;> rfl

lemma ofSettings_dryRun (settings : List Setting) (words : List Text) :
    ofSettings (.dryRun :: settings) words = (ofSettings settings words).dry := by
  have hfold : ∀ i : Invocation, settings.foldl follow i.dry = (settings.foldl follow i).dry := by
    induction settings with
    | nil => exact fun i => rfl
    | cons s settings ih =>
      intro i
      rw [List.foldl_cons, List.foldl_cons, follow_dry, ih]
  exact hfold { words }

/-- Asking for a dry run ahead of all else changes nothing but that. -/
theorem ofArguments_dryRun (arguments : List Text) :
    ofArguments ("--dry-run".toList :: arguments) = (ofArguments arguments).map dry := by
  have hflag : IsFlag CommandLine.options "--dry-run".toList Setting.dryRun := ⟨by decide, _, rfl⟩
  rw [ofArguments, ofArguments, readMixed_cons hflag]
  cases readMixed CommandLine.options arguments with
  | error stop => rfl
  | ok r => exact congrArg Except.ok (ofSettings_dryRun r.1 r.2)

end Invocation
end Shorthand.CommandLine
