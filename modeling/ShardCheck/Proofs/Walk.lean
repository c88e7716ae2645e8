import Mathlib.Tactic.Common
import Mathlib.Data.List.Perm.Subperm
import ShardCheck.Inventory
import ShardCheck.Proofs.Fallible
import ShardCheck.Proofs.KeyMap

/-!
# The files that a walk finds

A walk that succeeds gives exactly the files that can be reached from its directory by going down
through directories and links. No file is lost to the bound on the depth: a directory with something
in it is the parent of an entry, the links on the way down lead to different directories, and
between two links every step goes one level deeper.
-/

namespace ShardCheck.FileSystem

variable {fs : FileSystem}

/-! ### What is below a directory -/

/-- The location and the entry that an entry of a directory stands for. -/
def leadsTo (fs : FileSystem) (path : String) (l : Location) :
    Entry → Except IoFault (Location × Entry)
  | .link _ => fs.resolve path
  | e => .ok (l, e)

lemma leadsTo_of_ne_link {e : Entry} (h : ∀ target, e ≠ .link target) (path : String)
    (l : Location) : fs.leadsTo path l e = .ok (l, e) := by
  cases e with
  | link target => exact absurd rfl (h target)
  | file text => rfl
  | dir => rfl

/-- A path goes from a directory at a location down to a file, through directories and links. -/
inductive IsFileBelow (fs : FileSystem) : String → Location → String → Prop where
  | file {dir : String} {l l' : Location} {name : String} {e : Entry} {text : Option String}
      (hat : fs.at? (l ++ [name]) = some e)
      (hto : fs.leadsTo (Path.join dir name) (l ++ [name]) e = .ok (l', .file text)) :
      IsFileBelow fs dir l (Path.join dir name)
  | down {dir : String} {l l' : Location} {name path : String} {e : Entry}
      (hat : fs.at? (l ++ [name]) = some e)
      (hto : fs.leadsTo (Path.join dir name) (l ++ [name]) e = .ok (l', .dir))
      (hbelow : IsFileBelow fs (Path.join dir name) l' path) : IsFileBelow fs dir l path

/-- A path goes from a tree down to a file. -/
def HasFile (fs : FileSystem) (tree path : String) : Prop :=
  ∃ l, fs.resolve tree = .ok (l, .dir) ∧ IsFileBelow fs tree l path

/-! ### Entries of a directory -/

lemma childOf?_append (l up : Location) (last : String) (e : Entry) :
    childOf? l (up ++ [last], e) = if up = l then some (last, e) else none := by
  simp [childOf?]

lemma lookup_filterMap_childOf? (es : List (Location × Entry)) (l : Location) (name : String) :
    (es.filterMap (childOf? l)).lookup name = es.lookup (l ++ [name]) := by
  induction es with
  | nil => rfl
  | cons x es ih =>
    obtain ⟨place, e⟩ := x
    rcases List.eq_nil_or_concat' place with rfl | ⟨up, last, rfl⟩
    · have hb : (l ++ [name] == []) = false := by simp
      rw [List.filterMap_cons_none rfl, List.lookup_cons, hb, ih]
    · have hx := childOf?_append l up last e
      by_cases hup : up = l
      · subst hup
        rw [if_pos rfl] at hx
        rw [List.filterMap_cons_some hx, List.lookup_cons, List.lookup_cons, ih]
        by_cases hn : name = last
        · simp [hn]
        · have hb : (name == last) = false := by simpa using hn
          have hb' : (up ++ [name] == up ++ [last]) = false := by simpa using hn
          rw [hb, hb']
      · have hb : (l ++ [name] == up ++ [last]) = false := by
          rw [beq_eq_false_iff_ne]
          intro h
          exact hup (List.append_inj_left' h rfl).symm
        rw [if_neg hup] at hx
        rw [List.filterMap_cons_none hx, List.lookup_cons, hb, ih]

/-- The entries of a directory are those at its location with one name more. -/
lemma get?_children (fs : FileSystem) (l : Location) (name : String) :
    (fs.children l).get? name = fs.at? (l ++ [name]) := by
  rw [children, KeyMap.get?_ofList, List.filterMap_reverse, List.reverse_reverse,
    lookup_filterMap_childOf?]
  simp [at?]

lemma mem_children_iff {l : Location} {name : String} {e : Entry} :
    (name, e) ∈ (fs.children l).entries ↔ fs.at? (l ++ [name]) = some e := by
  rw [← get?_children, KeyMap.get?_eq_some_iff]

/-- The resolution of a path does not end at a link. -/
lemma follow_ne_link {ss : List String} {l l' : Location} {e e' : Entry}
    (he : ∀ target, e ≠ .link target) (h : fs.follow ss l e = .ok (.found l' e')) :
    ∀ target, e' ≠ .link target := by
  induction ss generalizing l e with
  | nil =>
    cases h
    exact he
  | cons s ss ih =>
    rw [follow] at h
    split at h
    · cases h
    · split at h
      · exact ih he h
      · split at h
        · exact ih (fun _ => by simp) h
        · split at h
          · cases h
          · split at h
            · cases h
            · cases h
            · rename_i hnot _
              exact ih hnot h

lemma resolveFrom_ne_link {links : Nat} {ss : List String} {l l' : Location} {e : Entry}
    (h : fs.resolveFrom links ss l = .ok (l', e)) : ∀ target, e ≠ .link target := by
  induction links generalizing ss l with
  | zero =>
    unfold resolveFrom at h
    split at h
    · cases h
    · rename_i hf
      cases h
      exact follow_ne_link (fun _ => by simp) hf
    · cases h
  | succ links ih =>
    unfold resolveFrom at h
    split at h
    · cases h
    · rename_i hf
      cases h
      exact follow_ne_link (fun _ => by simp) hf
    · simp only at h
      split at h
      · cases h
      · exact ih h

lemma resolve_ne_link {path : String} {l : Location} {e : Entry}
    (h : fs.resolve path = .ok (l, e)) : ∀ target, e ≠ .link target := by
  unfold resolve at h
  split at h
  · cases h
  · split at h
    · cases h
    · exact resolveFrom_ne_link h

lemma size_le_of_resolve {path : String} {x : Location × Entry} (h : fs.resolve path = .ok x) :
    path.utf8ByteSize ≤ maxPath := by
  unfold resolve at h
  split at h
  · cases h
  · split at h
    · cases h
    · rename_i hshort
      exact Nat.not_lt.1 hshort

/-- A file that can be loaded has a path that is not too long. -/
lemma size_le_of_load {α : Type} {r : Yaml.Reader α} {empty x : α} {path : String}
    (h : fs.load r empty path = .ok x) : path.utf8ByteSize ≤ maxPath := by
  unfold load readText at h
  cases hresolve : fs.resolve path with
  | error fault =>
    rw [hresolve] at h
    cases h
  | ok reached => exact size_le_of_resolve hresolve

/-! ### One step of a walk -/

lemma filesBelow_succ (fs : FileSystem) (fuel : Nat) (path : String) (l : Location)
    (outer : List Ancestor) :
    fs.filesBelow (fuel + 1) ((path, l) :: outer) =
      ((fs.children l).entries.mapM fun x =>
        fs.filesAt ((path, l) :: outer) (fs.filesBelow fuel) (Path.join path x.1) (l ++ [x.1])
          x.2).map List.flatten := by
  rw [filesBelow]
  exact Fallible.foldlM_append _ _ _

lemma ancestor?_eq_none_iff {stack : List Ancestor} {l : Location} :
    ancestor? stack l = none ↔ l ∉ stack.map Prod.snd := by
  simp only [ancestor?, Option.map_eq_none_iff, List.find?_eq_none, beq_iff_eq, List.mem_map,
    not_exists, not_and]

/-- An entry is listed by itself if it stands for a file, and stands for the files below it if it
leads to a directory that can be opened. A link does not lead back to where the walk is inside
of. -/
lemma filesAt_eq_ok_iff {stack : List Ancestor}
    {below : List Ancestor → Except WalkFault (List String)} {path : String} {l : Location}
    {e : Entry} {found : List String} :
    fs.filesAt stack below path l e = .ok found ↔
      ∃ l' e', fs.leadsTo path l e = .ok (l', e') ∧
        ((∃ text, e' = .file text) ∧ found = [path] ∨
          e' = .dir ∧ path.utf8ByteSize ≤ maxPath ∧ (e = .dir ∨ l' ∉ stack.map Prod.snd) ∧
            below ((path, l') :: stack) = .ok found) := by
  cases e with
  | file text => simp [filesAt, leadsTo, eq_comm]
  | dir =>
    by_cases hlong : maxPath < path.utf8ByteSize
    · simp [filesAt, leadsTo, hlong, Nat.not_le.2 hlong]
    · simp [filesAt, leadsTo, hlong, Nat.not_lt.1 hlong]
  | link target =>
    cases hr : fs.resolve path with
    | error f => simp [filesAt, leadsTo, hr]
    | ok reached =>
      obtain ⟨l', e'⟩ := reached
      cases e' with
      | file text => simp [filesAt, leadsTo, hr, eq_comm]
      | link target => exact absurd rfl (resolve_ne_link hr target)
      | dir =>
        have hnone : ancestor? stack l' = none ↔ l' ∉ stack.map Prod.snd := ancestor?_eq_none_iff
        -- a path that could be resolved is not too long
        have hshort := size_le_of_resolve hr
        cases ha : ancestor? stack l' with
        | none => simpa [filesAt, leadsTo, hr, ha, hshort] using fun _ => by simpa using hnone.1 ha
        | some a =>
          have hin : ¬ l' ∉ stack.map Prod.snd := fun hout => by simp [hnone.2 hout] at ha
          simpa [filesAt, leadsTo, hr, ha, hshort] using
            fun hout => absurd (by simpa using hout) hin

/-- The files that a walk lists below a directory are those that it lists for its entries. -/
lemma mem_filesBelow {fuel : Nat} {path : String} {l : Location} {outer : List Ancestor}
    {files : List String} (h : fs.filesBelow (fuel + 1) ((path, l) :: outer) = .ok files) :
    (∀ name e, fs.at? (l ++ [name]) = some e → ∃ found,
      fs.filesAt ((path, l) :: outer) (fs.filesBelow fuel) (Path.join path name) (l ++ [name]) e =
        .ok found ∧ ∀ p ∈ found, p ∈ files) ∧
    ∀ p ∈ files, ∃ name e found, fs.at? (l ++ [name]) = some e ∧
      fs.filesAt ((path, l) :: outer) (fs.filesBelow fuel) (Path.join path name) (l ++ [name]) e =
        .ok found ∧ p ∈ found := by
  rw [filesBelow_succ, Fallible.map_eq_ok_iff] at h
  obtain ⟨founds, hfounds, rfl⟩ := h
  rw [Fallible.mapM_eq_ok_iff] at hfounds
  constructor
  · intro name e hat
    obtain ⟨found, hzip, hfound⟩ := Fallible.exists_mem_zip_left hfounds (mem_children_iff.2 hat)
    exact ⟨found, hfound, fun p hp => List.mem_flatten.2 ⟨found, (List.of_mem_zip hzip).2, hp⟩⟩
  · intro p hp
    obtain ⟨found, hmem, hp⟩ := List.mem_flatten.1 hp
    obtain ⟨⟨name, e⟩, hzip, hfound⟩ := Fallible.exists_mem_zip_right hfounds hmem
    exact ⟨name, e, found, mem_children_iff.1 (List.of_mem_zip hzip).1, hfound, hp⟩

/-! ### Every listed file is there -/

lemma isFileBelow_of_mem {fuel : Nat} {path : String} {l : Location} {outer : List Ancestor}
    {files : List String} (h : fs.filesBelow fuel ((path, l) :: outer) = .ok files) {p : String}
    (hp : p ∈ files) : IsFileBelow fs path l p := by
  induction fuel generalizing path l outer files with
  | zero =>
    cases h
    cases hp
  | succ fuel ih =>
    obtain ⟨name, e, found, hat, hfound, hp⟩ := (mem_filesBelow h).2 p hp
    obtain ⟨l', e', hto, ⟨⟨text, rfl⟩, rfl⟩ | ⟨rfl, -, -, hbelow⟩⟩ := filesAt_eq_ok_iff.1 hfound
    · rw [List.mem_singleton.1 hp]
      exact .file hat hto
    · exact .down hat hto (ih hbelow hp)

/-! ### Every file is listed -/

/-- The locations that an entry is directly below. -/
def parents (fs : FileSystem) : List Location := fs.entries.map (·.1.dropLast)

lemma mem_parents {l : Location} {name : String} {e : Entry} (h : fs.at? (l ++ [name]) = some e) :
    l ∈ fs.parents := by
  have hlookup : fs.entries.lookup (l ++ [name]) = some e := by simpa [at?] using h
  obtain ⟨before, after, heq, -⟩ := List.lookup_eq_some_iff.1 hlookup
  exact List.mem_map.2 ⟨(l ++ [name], e), by simp [heq], by simp⟩

/-- The way of a walk to a location inside the directories on the stack: `targets` are its start and
the directories that links led to, and `steps` the directories since the last of them. All but the
last of these have something in them. -/
structure Trail (fs : FileSystem) (stack : List Ancestor) (l : Location)
    (targets steps : List Location) : Prop where
  targets_nodup : targets.Nodup
  targets_inside : targets ⊆ stack.map Prod.snd
  steps_nodup : steps.Nodup
  steps_above : ∀ d ∈ steps, d.length ≤ l.length
  nonempty : ∀ d ∈ targets ++ steps, d = l ∨ d ∈ fs.parents

/-- The number of steps that a walk can still take at the end of a trail. -/
def depthLeft (fs : FileSystem) (targets steps : List Location) : Nat :=
  (fs.entries.length + 1 - targets.length) * (fs.entries.length + 1) +
    (fs.entries.length + 1 - steps.length)

namespace Trail

variable {stack : List Ancestor} {l : Location} {targets steps : List Location}

lemma start (fs : FileSystem) (path : String) (l : Location) : Trail fs [(path, l)] l [l] [l] where
  targets_nodup := by simp
  targets_inside := by simp
  steps_nodup := by simp
  steps_above := by simp
  nonempty := by simp

/-- Where an entry is, the rest of the trail has something in it as well. -/
lemma subset_parents (h : Trail fs stack l targets steps) (hl : l ∈ fs.parents) :
    targets ⊆ fs.parents ∧ steps ⊆ fs.parents := by
  have hall : ∀ d ∈ targets ++ steps, d ∈ fs.parents := by
    intro d hd
    rcases h.nonempty d hd with rfl | hd
    · exact hl
    · exact hd
  exact ⟨fun d hd => hall d (List.mem_append_left _ hd),
    fun d hd => hall d (List.mem_append_right _ hd)⟩

/-- There are no more different directories with something in them than there are entries. -/
lemma length_le (h : Trail fs stack l targets steps) (hl : l ∈ fs.parents) :
    targets.length ≤ fs.entries.length ∧ steps.length ≤ fs.entries.length := by
  have hlen : fs.parents.length = fs.entries.length := List.length_map _
  obtain ⟨ht, hs⟩ := h.subset_parents hl
  rw [← hlen]
  exact ⟨(List.subperm_of_subset h.targets_nodup ht).length_le,
    (List.subperm_of_subset h.steps_nodup hs).length_le⟩

/-- A step into a directory goes to a longer location. -/
lemma descend (h : Trail fs stack l targets steps) (hl : l ∈ fs.parents) (path name : String) :
    Trail fs ((path, l ++ [name]) :: stack) (l ++ [name]) targets ((l ++ [name]) :: steps) where
  targets_nodup := h.targets_nodup
  targets_inside := fun t ht => List.mem_cons_of_mem _ (h.targets_inside ht)
  steps_nodup := by
    refine List.nodup_cons.2 ⟨fun hmem => ?_, h.steps_nodup⟩
    have hlong := h.steps_above _ hmem
    simp only [List.length_append, List.length_singleton] at hlong
    omega
  steps_above := by
    intro d hd
    rcases List.mem_cons.1 hd with rfl | hd
    · exact Nat.le_refl _
    · have hd := h.steps_above d hd
      simp only [List.length_append, List.length_singleton]
      omega
  nonempty := by
    intro d hd
    obtain ⟨ht, hs⟩ := h.subset_parents hl
    rcases List.mem_append.1 hd with hd | hd
    · exact .inr (ht hd)
    · rcases List.mem_cons.1 hd with rfl | hd
      · exact .inl rfl
      · exact .inr (hs hd)

/-- A step along a link goes to a directory that the walk is not inside of. -/
lemma follow (h : Trail fs stack l targets steps) (hl : l ∈ fs.parents) (path : String)
    {l' : Location} (hnew : l' ∉ stack.map Prod.snd) :
    Trail fs ((path, l') :: stack) l' (l' :: targets) [l'] where
  targets_nodup := List.nodup_cons.2 ⟨fun hmem => hnew (h.targets_inside hmem), h.targets_nodup⟩
  targets_inside := by
    intro t ht
    rcases List.mem_cons.1 ht with rfl | ht
    · simp
    · exact List.mem_cons_of_mem _ (h.targets_inside ht)
  steps_nodup := by simp
  steps_above := by simp
  nonempty := by
    intro d hd
    rcases List.mem_append.1 hd with hd | hd
    · rcases List.mem_cons.1 hd with rfl | hd
      · exact .inl rfl
      · exact .inr ((h.subset_parents hl).1 hd)
    · exact .inl (List.mem_singleton.1 hd)

lemma depthLeft_pos (h : Trail fs stack l targets steps) (hl : l ∈ fs.parents) :
    0 < fs.depthLeft targets steps := by
  obtain ⟨-, hs⟩ := h.length_le hl
  unfold depthLeft
  omega

lemma depthLeft_descend (h : Trail fs stack l targets steps) (hl : l ∈ fs.parents)
    (d : Location) : fs.depthLeft targets (d :: steps) < fs.depthLeft targets steps := by
  obtain ⟨-, hs⟩ := h.length_le hl
  unfold depthLeft
  simp only [List.length_cons]
  omega

lemma depthLeft_follow (h : Trail fs stack l targets steps) (hl : l ∈ fs.parents)
    (t d : Location) : fs.depthLeft (t :: targets) [d] < fs.depthLeft targets steps := by
  obtain ⟨ht, hs⟩ := h.length_le hl
  obtain ⟨k, hk⟩ : ∃ k, fs.entries.length + 1 - targets.length = k + 1 :=
    ⟨fs.entries.length - targets.length, by omega⟩
  have hk' : fs.entries.length + 1 - (targets.length + 1) = k := by omega
  unfold depthLeft
  simp only [List.length_cons, List.length_nil, hk, hk', Nat.add_mul]
  omega

end Trail

/-- The bound on the depth lets a walk go on to the end from inside of the directories of a
stack. -/
def IsDeepEnough (fs : FileSystem) (fuel : Nat) (dir : String) (l : Location)
    (outer : List Ancestor) : Prop :=
  ∃ targets steps, Trail fs ((dir, l) :: outer) l targets steps ∧
    fs.depthLeft targets steps ≤ fuel

def depthBound (fs : FileSystem) : Nat := (fs.entries.length + 1) * (fs.entries.length + 1)

lemma isDeepEnough_start (fs : FileSystem) (dir : String) (l : Location) {fuel : Nat}
    (h : fs.depthBound ≤ fuel + 1) : fs.IsDeepEnough fuel dir l [] := by
  refine ⟨[l], [l], Trail.start fs dir l, ?_⟩
  unfold depthBound at h
  unfold depthLeft
  simp only [List.length_singleton, Nat.add_sub_cancel, Nat.add_mul, Nat.mul_add] at h ⊢
  omega

lemma depthBound_le_walkDepth (fs : FileSystem) : fs.depthBound ≤ fs.walkDepth :=
  Nat.mul_le_mul (Nat.le_succ _) (Nat.le_succ _)

lemma isDeepEnough_walkDepth (fs : FileSystem) (dir : String) (l : Location) :
    fs.IsDeepEnough fs.walkDepth dir l [] :=
  isDeepEnough_start fs dir l (Nat.le_succ_of_le fs.depthBound_le_walkDepth)

/-- Where there is an entry, the walk can go one step deeper. -/
lemma IsDeepEnough.step {fuel : Nat} {dir name : String} {l : Location} {outer : List Ancestor}
    {e : Entry} (h : fs.IsDeepEnough fuel dir l outer) (hat : fs.at? (l ++ [name]) = some e) :
    ∃ k, fuel = k + 1 ∧ ∀ l', fs.leadsTo (Path.join dir name) (l ++ [name]) e = .ok (l', .dir) →
      e = .dir ∨ l' ∉ ((dir, l) :: outer).map Prod.snd →
        fs.IsDeepEnough k (Path.join dir name) l' ((dir, l) :: outer) := by
  obtain ⟨targets, steps, htrail, hfuel⟩ := h
  have hl := mem_parents hat
  have hpos := htrail.depthLeft_pos hl
  refine ⟨fuel - 1, by omega, fun l' hto hnew => ?_⟩
  rcases hnew with rfl | hnew
  · cases hto
    have hless := htrail.depthLeft_descend hl (l ++ [name])
    exact ⟨_, _, htrail.descend hl _ name, by omega⟩
  · have hless := htrail.depthLeft_follow hl l' l'
    exact ⟨_, _, htrail.follow hl _ hnew, by omega⟩

/-- A walk that is deep enough lists every file below. -/
lemma mem_of_isFileBelow {path p : String} {l : Location} (h : IsFileBelow fs path l p)
    {fuel : Nat} {outer : List Ancestor} {files : List String}
    (hdeep : fs.IsDeepEnough fuel path l outer)
    (hfiles : fs.filesBelow fuel ((path, l) :: outer) = .ok files) : p ∈ files := by
  induction h generalizing fuel outer files with
  | @file dir l l' name e text hat hto =>
    obtain ⟨fuel, rfl, -⟩ := hdeep.step hat
    obtain ⟨found, hfound, hsub⟩ := (mem_filesBelow hfiles).1 name e hat
    obtain ⟨l₀, e₀, hto₀, hcases⟩ := filesAt_eq_ok_iff.1 hfound
    cases hto.symm.trans hto₀
    rcases hcases with ⟨-, rfl⟩ | ⟨hdir, -⟩
    · exact hsub _ (List.mem_singleton_self _)
    · cases hdir
  | @down dir l l' name p e hat hto hbelow ih =>
    obtain ⟨fuel, rfl, hstep⟩ := hdeep.step hat
    obtain ⟨found, hfound, hsub⟩ := (mem_filesBelow hfiles).1 name e hat
    obtain ⟨l₀, e₀, hto₀, hcases⟩ := filesAt_eq_ok_iff.1 hfound
    cases hto.symm.trans hto₀
    rcases hcases with ⟨⟨_, hfile⟩, -⟩ | ⟨-, -, hnew, hrest⟩
    · cases hfile
    · exact hsub p (ih (hstep _ hto hnew) hrest)

/-! ### The files of a tree -/

lemma isDir_iff {dir : String} : fs.isDir dir = true ↔ ∃ l, fs.resolve dir = .ok (l, .dir) := by
  unfold isDir
  split
  · rename_i l hdir
    simp [hdir]
  · rename_i hnot
    simpa using fun l hdir => hnot l hdir

lemma walk_of_resolve {dir : String} {l : Location} (hdir : fs.resolve dir = .ok (l, .dir)) :
    fs.walk dir = fs.filesBelow fs.walkDepth [(dir, l)] := by
  rw [walk, hdir]

/-- A walk that succeeds lists the files below its directory and no others. -/
theorem mem_walk_iff {dir : String} {l : Location} {files : List String}
    (hdir : fs.resolve dir = .ok (l, .dir)) (h : fs.walk dir = .ok files) (p : String) :
    p ∈ files ↔ fs.HasFile dir p := by
  rw [walk_of_resolve hdir] at h
  constructor
  · intro hp
    exact ⟨l, hdir, isFileBelow_of_mem h hp⟩
  · rintro ⟨l', hdir', hbelow⟩
    cases hdir.symm.trans hdir'
    exact mem_of_isFileBelow hbelow (isDeepEnough_walkDepth fs dir l) h

def isYaml (path : String) : Bool := Path.extension? path == some "yaml"

/-- The configuration files of a tree are listed if the tree is a directory and its walk
succeeds. -/
lemma yamlFiles_eq_ok_iff {tree : String} {files : List String} :
    fs.yamlFiles tree = .ok files ↔
      fs.isDir tree = true ∧
        ∃ listed, fs.walk tree = .ok listed ∧ files = listed.filter isYaml := by
  unfold yamlFiles
  split
  · rename_i hdir
    cases fs.walk tree with
    | ok listed =>
      simp only [hdir, Except.ok.injEq, true_and, exists_eq_left']
      exact eq_comm
    | error f => simp
  · rename_i hdir
    simp [hdir]

/-- The configuration files of a tree are the files with the right extension. -/
theorem mem_yamlFiles_iff {tree : String} {files : List String}
    (h : fs.yamlFiles tree = .ok files) (p : String) :
    p ∈ files ↔ fs.HasFile tree p ∧ Path.extension? p = some "yaml" := by
  obtain ⟨hisDir, listed, hwalk, rfl⟩ := yamlFiles_eq_ok_iff.1 h
  obtain ⟨l, hdir⟩ := isDir_iff.1 hisDir
  rw [List.mem_filter, mem_walk_iff hdir hwalk, isYaml, beq_iff_eq]

end ShardCheck.FileSystem
