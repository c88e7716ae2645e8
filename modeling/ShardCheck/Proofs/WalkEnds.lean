import Mathlib.Tactic.Common
import ShardCheck.Proofs.Inventory
import ShardCheck.Proofs.WalkExact

/-!
# Every walk ends

A walk goes from a directory into the directories in it, and through links into others. Links are
followed only to directories that the walk is not inside of, so on one way down they lead to
different directories, and between two of them the locations get longer. This bounds how deep a walk
can get by the number of entries, whatever the links are. The walk either comes upon a fault, which
is all that is returned then, or lists everything below its tree.
-/

namespace ShardCheck.FileSystem

variable {fs : FileSystem}

/-! ### Where a walk gets -/

/-- A walk of a tree can be inside of the directories of a stack, innermost first. -/
inductive IsInside (fs : FileSystem) (tree : String) (place : Location) : List Ancestor → Prop where
  | start : IsInside fs tree place [(tree, place)]
  | enter {dir name : String} {l l' : Location} {outer : List Ancestor} {e : Entry}
      (h : IsInside fs tree place ((dir, l) :: outer)) (hat : fs.at? (l ++ [name]) = some e)
      (hto : fs.leadsTo (Path.join dir name) (l ++ [name]) e = .ok (l', .dir))
      (hshort : (Path.join dir name).utf8ByteSize ≤ maxPath)
      (hnew : e = .dir ∨ l' ∉ ((dir, l) :: outer).map Prod.snd) :
      IsInside fs tree place ((Path.join dir name, l') :: (dir, l) :: outer)

/-- Inside of some directories a walk can go on for the rest of the depth. -/
lemma IsInside.isDeepEnough {tree : String} {place : Location} {stack : List Ancestor}
    (h : fs.IsInside tree place stack) : ∃ dir l outer left, stack = (dir, l) :: outer ∧
      fs.IsDeepEnough left dir l outer ∧ left + stack.length = fs.depthBound := by
  induction h with
  | start =>
    have hpos : 0 < fs.depthBound := Nat.mul_pos (Nat.succ_pos _) (Nat.succ_pos _)
    have hleft : fs.depthBound - 1 + 1 = fs.depthBound := by omega
    exact ⟨_, _, _, _, rfl, isDeepEnough_start fs tree place (Nat.le_of_eq hleft.symm), hleft⟩
  | enter _ hat hto hshort hnew ih =>
    obtain ⟨_, _, _, left, heq, hdeep, hleft⟩ := ih
    cases heq
    obtain ⟨left, rfl, hstep⟩ := hdeep.step hat
    refine ⟨_, _, _, left, rfl, hstep _ hto hnew, ?_⟩
    rw [List.length_cons]
    omega

lemma IsInside.length_le {tree : String} {place : Location} {stack : List Ancestor}
    (h : fs.IsInside tree place stack) : stack.length ≤ fs.depthBound := by
  obtain ⟨_, _, _, left, -, -, hleft⟩ := h.isDeepEnough
  omega

/-! ### More depth than needed -/

/-- What an entry stands for depends on the directories only that the walk goes into. -/
lemma filesAt_congr {stack : List Ancestor}
    {below below' : List Ancestor → Except WalkFault (List String)} {path : String} {l : Location}
    {e : Entry} (h : ∀ l', fs.leadsTo path l e = .ok (l', .dir) →
      e = .dir ∨ l' ∉ stack.map Prod.snd →
        below ((path, l') :: stack) = below' ((path, l') :: stack)) :
    fs.filesAt stack below path l e = fs.filesAt stack below' path l e := by
  cases e with
  | file text => rfl
  | dir => rw [filesAt, filesAt, h l rfl (.inl rfl)]
  | link target =>
    rw [filesAt, filesAt]
    split
    · rfl
    · rename_i l' hto
      split
      · rfl
      · rename_i hnone
        exact h l' hto (.inr (ancestor?_eq_none_iff.1 hnone))
    · rfl

/-- A walk that is deep enough lists the same as any deeper one. -/
lemma filesBelow_eq_of_isDeepEnough {fuel fuel' : Nat} {dir : String} {l : Location}
    {outer : List Ancestor} (hdeep : fs.IsDeepEnough fuel dir l outer) (hle : fuel ≤ fuel') :
    fs.filesBelow fuel' ((dir, l) :: outer) = fs.filesBelow fuel ((dir, l) :: outer) := by
  induction fuel generalizing fuel' dir l outer with
  | zero =>
    -- there is no entry that the walk could go on to
    have hnil : (fs.children l).entries = [] := by
      refine List.eq_nil_iff_forall_not_mem.2 fun x hx => ?_
      obtain ⟨k, hk, -⟩ := hdeep.step (mem_children_iff.1 hx)
      cases hk
    cases fuel' with
    | zero => rfl
    | succ fuel' =>
      rw [filesBelow_succ, hnil]
      rfl
  | succ fuel ih =>
    obtain ⟨fuel', rfl⟩ : ∃ k, fuel' = k + 1 := ⟨fuel' - 1, by omega⟩
    rw [filesBelow_succ, filesBelow_succ]
    refine congrArg (Except.map List.flatten) (Fallible.mapM_congr fun x hx => ?_)
    obtain ⟨k, hk, hstep⟩ := hdeep.step (mem_children_iff.1 hx)
    obtain rfl := Nat.succ.inj hk
    exact filesAt_congr fun l' hto hnew => ih (hstep l' hto hnew) (by omega)

lemma filesBelow_eq_walk {tree : String} {l : Location} (htree : fs.resolve tree = .ok (l, .dir))
    {fuel : Nat} (hle : fs.depthBound ≤ fuel) : fs.filesBelow fuel [(tree, l)] = fs.walk tree := by
  have hdeep := isDeepEnough_start fs tree l (Nat.le_succ fs.depthBound)
  rw [walk_of_resolve htree, filesBelow_eq_of_isDeepEnough hdeep hle,
    filesBelow_eq_of_isDeepEnough hdeep fs.depthBound_le_walkDepth]

/-! ### How a walk ends -/

/-- The configuration files of a directory cannot be listed exactly if there is a fault below it. -/
lemma exists_yamlFiles_eq_error_iff {tree : String} {l : Location}
    (htree : fs.resolve tree = .ok (l, .dir)) :
    (∃ e, fs.yamlFiles tree = .error e) ↔ ∃ way f, fs.IsFaultBelow tree l [] way f := by
  constructor
  · rintro ⟨e, he⟩
    rcases yamlFiles_eq_error_iff.1 he with ⟨hdir, -⟩ | ⟨f, ⟨l', way, htree', hway⟩, -⟩
    · cases hdir.symm.trans (isDir_iff.2 ⟨l, htree⟩)
    · cases htree.symm.trans htree'
      exact ⟨way, f, hway.isFault⟩
  · rintro ⟨way, f, hfault⟩
    cases hfiles : fs.yamlFiles tree with
    | error e => exact ⟨e, rfl⟩
    | ok files =>
      obtain ⟨-, listed, hwalk, -⟩ := yamlFiles_eq_ok_iff.1 hfiles
      exact absurd hfault ((exists_walk_eq_ok_iff htree).1 ⟨listed, hwalk⟩ l way f htree)

/-- Whatever the links are, a walk is never inside of more directories than the depth bound, so that
more depth changes nothing. It fails exactly if there is a link that leads nowhere or back to a
directory the walk is inside of, or a directory whose path is too long, and it does so with the
first of these. Nothing is loaded or logged then. Without any, all files below the tree are
listed. -/
theorem walk_ends (hfs : fs.HasFileNames) {tree : String} {l : Location}
    (htree : fs.resolve tree = .ok (l, .dir)) :
    (∀ stack, fs.IsInside tree l stack → stack.length ≤ fs.depthBound) ∧
      (∀ fuel, fs.depthBound ≤ fuel → fs.filesBelow fuel [(tree, l)] = fs.walk tree) ∧
      ((∃ e, fs.yamlFiles tree = .error e) ↔ ∃ way f, fs.IsFaultBelow tree l [] way f) ∧
      (∀ e, fs.yamlFiles tree = .error e ↔
        ∃ f, fs.IsFirstFault tree f ∧ e = .walkFailed f.path f.message) ∧
      (∀ e, fs.yamlFiles tree = .error e → ∀ root,
        Run.value (ConfigInventory.build fs root tree) = .error (.error e) ∧
          Run.events (ConfigInventory.build fs root tree) = [] ∧
          Run.value (JobInventory.build fs root tree) = .error (.error e) ∧
          Run.events (JobInventory.build fs root tree) = []) ∧
      (fs.HasNoFault tree → ∃ files ways, fs.yamlFiles tree = .ok files ∧
        AreAt files tree ways ∧ ∀ way, way ∈ ways ↔ fs.HasYaml tree way) := by
  have hdir : fs.isDir tree = true := isDir_iff.2 ⟨l, htree⟩
  refine ⟨fun stack h => h.length_le, fun fuel hle => filesBelow_eq_walk htree hle,
    exists_yamlFiles_eq_error_iff htree, fun e => ?_, fun e he root => ?_, fun hnone => ?_⟩
  · rw [yamlFiles_eq_error_iff, hdir, or_iff_right fun h => Bool.noConfusion h.1]
  · rw [ConfigInventory.build, JobInventory.build, he]
    obtain ⟨hconfigs, hconfigLog⟩ :=
      readFiles_of_error (@ConfigInventory.isAdding_readFile fs root tree) e default
    obtain ⟨hjobs, hjobLog⟩ :=
      readFiles_of_error (@JobInventory.isAdding_readFile fs root tree) e default
    exact ⟨hconfigs, hconfigLog, hjobs, hjobLog⟩
  · obtain ⟨listed, hwalk⟩ := (exists_walk_eq_ok_iff htree).2 hnone
    have hfiles := yamlFiles_eq_ok_iff.2 ⟨hdir, listed, hwalk, rfl⟩
    obtain ⟨ways, hways, -, hmem⟩ := exists_areAt_yamlFiles hfs hfiles
    exact ⟨_, ways, hfiles, hways, hmem⟩

/-- A link that leads above the walked directory, and so back into it. -/
def aboveFiles : FileSystem where
  workDir := []
  entries :=
    [(["s"], .dir), (["s", "a.yaml"], .file (some "")), (["s", "t"], .dir),
      (["s", "t", "up"], .link "/s")]

/-- The link is followed once: the walk is not inside of its target then, which it is the second
time. The configuration that is found before that is not returned. -/
theorem walk_ends_aboveFiles :
    aboveFiles.HasFileNames ∧ aboveFiles.resolve "/s/t" = .ok (["s", "t"], .dir) ∧
      aboveFiles.yamlFiles "/s/t" = .error (.walkFailed "/s/t/up/t/up"
        "File system loop found: /s/t/up/t/up points to an ancestor /s/t/up") ∧
      aboveFiles.HasYaml "/s/t" ["up", "a.yaml"] ∧
      (∃ way f, aboveFiles.IsFaultBelow "/s/t" ["s", "t"] [] way f) ∧
      Run.events (ConfigInventory.build aboveFiles "/" "/s/t") = [] := by
  have hfs : aboveFiles.HasFileNames := by decide
  have htree : aboveFiles.resolve "/s/t" = .ok (["s", "t"], .dir) := by decide +kernel
  have herror : aboveFiles.yamlFiles "/s/t" = .error (.walkFailed "/s/t/up/t/up"
      "File system loop found: /s/t/up/t/up points to an ancestor /s/t/up") := by decide +kernel
  have hlink : aboveFiles.at? (["s", "t"] ++ ["up"]) = some (.link "/s") := by decide
  have hup : aboveFiles.leadsTo (Path.join "/s/t" "up") (["s", "t"] ++ ["up"]) (.link "/s") =
      .ok (["s"], .dir) := by decide +kernel
  have hfile : aboveFiles.at? (["s"] ++ ["a.yaml"]) = some (.file (some "")) := by decide
  obtain ⟨-, -, hfault, -, hnothing, -⟩ := walk_ends hfs htree
  exact ⟨hfs, htree, herror, ⟨by decide, ⟨_, htree, .down hlink hup (.file hfile rfl)⟩,
    by decide +kernel⟩, hfault.1 ⟨_, herror⟩, (hnothing _ herror "/").2.1⟩

/-- There need not be a link for a walk to fail. -/
theorem yamlFiles_deepFiles_eq_error :
    (∀ x ∈ deepFiles.entries, ∀ target, x.2 ≠ .link target) ∧
      deepFiles.resolve "/" = .ok ([], .dir) ∧
      ∃ path message, deepFiles.yamlFiles "/" = .error (.walkFailed path message) := by
  refine ⟨fun x hx target => ?_, resolve_deepFiles, ?_⟩
  · rcases mem_deepFiles_iff.1 hx with rfl | ⟨n, -, rfl⟩
    · simp
    · simp
  · cases h : deepFiles.yamlFiles "/" with
    | ok files => exact absurd h (yamlFiles_deepFiles_ne_ok files)
    | error e =>
      rcases yamlFiles_eq_error_iff.1 h with ⟨hdir, -⟩ | ⟨f, -, rfl⟩
      · cases hdir.symm.trans (isDir_iff.2 ⟨_, resolve_deepFiles⟩)
      · exact ⟨_, _, rfl⟩

end ShardCheck.FileSystem
