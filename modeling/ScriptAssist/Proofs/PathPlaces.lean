import ScriptAssist.Proofs.TemporaryFiles

/-!
# Places of paths

Where a path leads is decided by its components: following it only walks along them, and what
stands in the tree decides whether it gets there. So paths with the same components lead to one
place, and a path that is spelled from the root leads where it says.
-/

namespace ScriptAssist

namespace Path

variable {p q : Path} {names : List Text}

/-! ### Components -/

/-- The components of a path that move from place to place. -/
def steps (p : Path) : List Component :=
  p.segments.filterMap componentOf?

/-- Whether a component moves from place to place. -/
def Component.isStep : Component → Bool
  | .up | .named _ => true
  | .root | .here => false

lemma isStep_of_mem_steps {component : Component} (h : component ∈ p.steps) :
    component.isStep = true := by
  obtain ⟨segment, -, hcomponent⟩ := List.mem_filterMap.1 h
  rw [componentOf?] at hcomponent
  split_ifs at hcomponent
  · rw [← Option.some.inj hcomponent]
    rfl
  · rw [← Option.some.inj hcomponent]
    rfl

lemma filter_components (p : Path) : p.components.filter Component.isStep = p.steps := by
  have hkept : p.steps.filter Component.isStep = p.steps :=
    List.filter_eq_self.2 fun _ => isStep_of_mem_steps
  rw [components]
  split_ifs
  · exact hkept
  · exact hkept
  · exact hkept

lemma isAbsolute_iff_mem_components : p.isAbsolute = true ↔ .root ∈ p.components := by
  have hroot : .root ∉ p.steps := fun h => absurd (isStep_of_mem_steps h) (by decide)
  rw [components]
  split_ifs with habsolute hhere
  · simp [habsolute]
  · refine iff_of_false habsolute fun hmem => ?_
    obtain hhead | hstep := List.mem_cons.1 hmem
    · exact absurd hhead (by decide)
    · exact hroot hstep
  · exact iff_of_false habsolute hroot

lemma steps_eq_of_sameAs (h : p.sameAs q = true) : p.steps = q.steps := by
  rw [sameAs, decide_eq_true_eq] at h
  rw [← filter_components, ← filter_components, h]

lemma isAbsolute_eq_of_sameAs (h : p.sameAs q = true) : p.isAbsolute = q.isAbsolute := by
  rw [sameAs, decide_eq_true_eq] at h
  rw [Bool.eq_iff_iff, isAbsolute_iff_mem_components, isAbsolute_iff_mem_components, h]

lemma componentOf?_of_isName {name : Text} (h : IsName name) :
    componentOf? name = some (.named name) := by
  rw [componentOf?, if_neg (by simp [h.noFiller]), if_neg h.noParent]

lemma filterMap_componentOf? (h : ∀ name ∈ names, IsName name) :
    names.filterMap componentOf? = names.map .named := by
  induction names with
  | nil => rfl
  | cons name names ih =>
    rw [List.filterMap_cons_some (componentOf?_of_isName (h name List.mem_cons_self)),
      ih fun other hother => h other (List.mem_cons_of_mem name hother), List.map_cons]

lemma isName_of_named_mem_steps {name : Text} (h : .named name ∈ p.steps) : IsName name := by
  obtain ⟨segment, hsegment, hcomponent⟩ := List.mem_filterMap.1 h
  rw [componentOf?] at hcomponent
  split_ifs at hcomponent with hfiller hup
  · simp at hcomponent
  · simp only [Option.some.injEq, Component.named.injEq] at hcomponent
    rw [hcomponent] at hfiller hup hsegment
    exact ⟨by simpa using hfiller, hup, not_mem_of_mem_segments hsegment⟩

end Path

namespace Files

variable {files files' : Files} {p q : Path} {place place' start : Place} {segments : List Text}

/-! ### Walking -/

/-- The place that one component leads to. -/
def stepTo (place : Place) : Path.Component → Place
  | .up => place.dropLast
  | .named name => place ++ [name]
  | .root | .here => place

/-- The place that components lead to, one after the other. -/
def walk (start : Place) (steps : List Path.Component) : Place :=
  steps.foldl stepTo start

lemma walk_named (start : Place) (names : List Text) :
    walk start (names.map .named) = start ++ names := by
  induction names generalizing start with
  | nil => simp [walk]
  | cons name names ih =>
    rw [List.map_cons, walk, List.foldl_cons, ← walk, ih, stepTo, List.append_assoc]
    rfl

/-- Following segments gets nowhere but where their components lead. -/
lemma follow_eq_walk (h : files.follow start segments = .ok place) :
    place = walk start (segments.filterMap Path.componentOf?) := by
  induction segments generalizing start with
  | nil => exact (Except.ok.inj h).symm
  | cons segment segments ih =>
    rw [follow] at h
    rw [List.filterMap_cons, Path.componentOf?]
    split_ifs at h with hfolder hfiller hup hsize hentry
    · rw [if_pos hfiller]
      exact ih h
    · rw [if_neg hfiller, if_pos hup]
      exact ih h
    · rw [if_neg hfiller, if_neg hup]
      exact ih h

lemma locate_eq_walk (h : files.locate p = .ok place) : place = walk (files.startOf p) p.steps := by
  rw [locate] at h
  cases hcheck : checkPath p with
  | error cause => simp [hcheck, bind, Except.bind] at h
  | ok _ =>
    rw [hcheck] at h
    exact follow_eq_walk h

lemma exists_place_of_lookup? (h : (files.lookup? p).isSome) :
    ∃ place, files.locate p = .ok place ∧ (files.entryAt? place).isSome := by
  rw [lookup?] at h
  cases hplace : files.locate p with
  | error cause => simp [hplace] at h
  | ok place =>
    rw [hplace] at h
    exact ⟨place, rfl, h⟩

/-- Paths with the same components lead to the same place, even if the tree has changed. -/
lemma locate_eq_of_sameAs (hsame : p.sameAs q = true) (hdir : files.workingDir = files'.workingDir)
    (h : files.locate p = .ok place) (h' : files'.locate q = .ok place') : place = place' := by
  rw [locate_eq_walk h, locate_eq_walk h', Path.steps_eq_of_sameAs hsame, startOf, startOf,
    Path.isAbsolute_eq_of_sameAs hsame, hdir]

lemma isName_of_mem_walk {steps : List Path.Component} (hstart : ∀ name ∈ start, Path.IsName name)
    (hsteps : ∀ name, .named name ∈ steps → Path.IsName name) :
    ∀ name ∈ walk start steps, Path.IsName name := by
  induction steps generalizing start with
  | nil => exact hstart
  | cons component steps ih =>
    have hrest : ∀ name, .named name ∈ steps → Path.IsName name := fun name hname =>
      hsteps name (List.mem_cons_of_mem component hname)
    refine ih (fun name hname => ?_) hrest
    cases component with
    | up => exact hstart name (List.dropLast_subset start hname)
    | root => exact hstart name hname
    | here => exact hstart name hname
    | named entered =>
      obtain hbefore | hlast := List.mem_append.1 hname
      · exact hstart name hbefore
      · obtain rfl := List.mem_singleton.1 hlast
        exact hsteps name List.mem_cons_self

/-- The working directory is a place that names lead to. -/
def HasNamedDir (files : Files) : Prop :=
  ∀ name ∈ files.workingDir, Path.IsName name

lemma HasNamedDir.isName_of_locate (hdir : files.HasNamedDir) (h : files.locate p = .ok place) :
    ∀ name ∈ place, Path.IsName name := by
  rw [locate_eq_walk h]
  refine isName_of_mem_walk ?_ fun name => Path.isName_of_named_mem_steps
  rw [startOf]
  split_ifs
  · simp
  · exact hdir

/-! ### Paths from the root -/

lemma steps_pathOf (h : ∀ name ∈ place, Path.IsName name) :
    (pathOf place).steps = place.map .named := by
  have hsegments : (pathOf place).segments = (Text.joinWith ['/'] place).splitOn '/' := by
    rw [Path.segments, pathOf, if_pos (by simp [Path.isAbsolute]),
      List.splitOn_cons_eq_if_modifyHead]
    rfl
  rw [Path.steps, hsegments]
  by_cases hroot : place = []
  · rw [hroot]
    rfl
  · rw [Text.joinWith, List.splitOn_intercalate '/' (fun name hname => (h name hname).noSlash) hroot]
    exact Path.filterMap_componentOf? h

/-- The canonical path of a path that leads to a place is the one from the root to there. -/
lemma eq_pathOf_of_canonical? (hlocate : files.locate p = .ok place)
    (h : files.canonical? p = some q) : q = pathOf place := by
  have hfollow : files.follow (files.startOf p) p.segments = .ok place := by
    rw [locate] at hlocate
    cases hcheck : checkPath p with
    | error cause => simp [hcheck, bind, Except.bind] at hlocate
    | ok _ =>
      rw [hcheck] at hlocate
      exact hlocate
  rw [canonical?, canonical, hfollow] at h
  cases hnaming : checkNaming p with
  | error cause => simp [hnaming, bind, Except.bind, Except.toOption] at h
  | ok _ =>
    cases hsize : checkSize (pathOf place) with
    | error cause => simp [hnaming, hsize, bind, Except.bind, Except.toOption] at h
    | ok _ => simpa [hnaming, hsize, bind, Except.bind, Except.toOption] using h.symm

/-- A path that is the same as the one from the root leads to the place where that points. -/
lemma eq_of_sameAs_pathOf (hnames : ∀ name ∈ place, Path.IsName name)
    (hsame : p.sameAs (pathOf place) = true) (h : files.locate p = .ok place') :
    place' = place := by
  have habsolute : p.isAbsolute = true := Path.isAbsolute_eq_of_sameAs hsame
  rw [locate_eq_walk h, startOf, if_pos habsolute, Path.steps_eq_of_sameAs hsame,
    steps_pathOf hnames, walk_named, List.nil_append]

end Files

end ScriptAssist
