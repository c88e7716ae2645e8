import Mathlib.Tactic.Common
import ShardCheck.Proofs.Walk

/-!
# Where a walk stops

A walk stops at the first fault that it comes upon: at a link that leads nowhere, at one that leads
back to a directory that the walk is inside of, or at a directory whose path is too long to open.
Which of several faults is the first is decided by the ways to them, the names of the entries on the
way down from the tree.
-/

namespace ShardCheck.FileSystem

variable {fs : FileSystem}

/-! ### Faults below a directory -/

/-- On the way down from a directory, with the directories around it on the stack, there is a fault
at the last of the names. -/
inductive IsFaultBelow (fs : FileSystem) :
    String → Location → List Ancestor → List String → WalkFault → Prop where
  | unreachable {dir name target : String} {l : Location} {outer : List Ancestor} {fault : IoFault}
      (hat : fs.at? (l ++ [name]) = some (.link target))
      (hto : fs.resolve (Path.join dir name) = .error fault) :
      IsFaultBelow fs dir l outer [name] (.unreachable (Path.join dir name) fault)
  | cycle {dir name target a : String} {l l' : Location} {outer : List Ancestor}
      (hat : fs.at? (l ++ [name]) = some (.link target))
      (hto : fs.resolve (Path.join dir name) = .ok (l', .dir))
      (hback : ancestor? ((dir, l) :: outer) l' = some a) :
      IsFaultBelow fs dir l outer [name] (.cycle (Path.join dir name) a)
  | tooLong {dir name : String} {l : Location} {outer : List Ancestor}
      (hat : fs.at? (l ++ [name]) = some .dir)
      (hlong : maxPath < (Path.join dir name).utf8ByteSize) :
      IsFaultBelow fs dir l outer [name] (.unreachable (Path.join dir name) .nameTooLong)
  | down {dir name : String} {l l' : Location} {outer : List Ancestor} {e : Entry}
      {way : List String} {f : WalkFault}
      (hat : fs.at? (l ++ [name]) = some e)
      (hto : fs.leadsTo (Path.join dir name) (l ++ [name]) e = .ok (l', .dir))
      (hshort : (Path.join dir name).utf8ByteSize ≤ maxPath)
      (hnew : e = .dir ∨ l' ∉ ((dir, l) :: outer).map Prod.snd)
      (hbelow : IsFaultBelow fs (Path.join dir name) l' ((dir, l) :: outer) way f) :
      IsFaultBelow fs dir l outer (name :: way) f

/-- Of all faults below a directory, the one at the end of this way comes first. -/
structure IsFirstFaultBelow (fs : FileSystem) (dir : String) (l : Location)
    (outer : List Ancestor) (way : List String) (f : WalkFault) : Prop where
  isFault : fs.IsFaultBelow dir l outer way f
  first : ∀ way' f', fs.IsFaultBelow dir l outer way' f' → way' = way ∨ way < way'

def IsFirstFault (fs : FileSystem) (tree : String) (f : WalkFault) : Prop :=
  ∃ l way, fs.resolve tree = .ok (l, .dir) ∧ fs.IsFirstFaultBelow tree l [] way f

def HasNoFault (fs : FileSystem) (tree : String) : Prop :=
  ∀ l way f, fs.resolve tree = .ok (l, .dir) → ¬ fs.IsFaultBelow tree l [] way f

/-! ### One step -/

lemma mem_map_snd_of_ancestor? {stack : List Ancestor} {l : Location} {a : String}
    (h : ancestor? stack l = some a) : l ∈ stack.map Prod.snd := by
  by_contra hnot
  rw [ancestor?_eq_none_iff.2 hnot] at h
  cases h

/-- The walk of an entry fails if the entry is a fault, or leads to a directory whose walk fails. -/
lemma filesAt_eq_error_iff {stack : List Ancestor}
    {below : List Ancestor → Except WalkFault (List String)} {path : String} {l : Location}
    {e : Entry} {f : WalkFault} :
    fs.filesAt stack below path l e = .error f ↔
      (∃ target fault, e = .link target ∧ fs.resolve path = .error fault ∧
          f = .unreachable path fault) ∨
        (∃ target l' a, e = .link target ∧ fs.resolve path = .ok (l', .dir) ∧
          ancestor? stack l' = some a ∧ f = .cycle path a) ∨
        (e = .dir ∧ maxPath < path.utf8ByteSize ∧ f = .unreachable path .nameTooLong) ∨
        ∃ l', fs.leadsTo path l e = .ok (l', .dir) ∧ path.utf8ByteSize ≤ maxPath ∧
          (e = .dir ∨ l' ∉ stack.map Prod.snd) ∧ below ((path, l') :: stack) = .error f := by
  cases e with
  | file text => simp [filesAt, leadsTo]
  | dir =>
    by_cases hlong : maxPath < path.utf8ByteSize
    · simp [filesAt, leadsTo, hlong, Nat.not_le.2 hlong, eq_comm]
    · simp [filesAt, leadsTo, hlong, Nat.not_lt.1 hlong]
  | link target =>
    cases hr : fs.resolve path with
    | error fault => simp [filesAt, leadsTo, hr, eq_comm]
    | ok reached =>
      obtain ⟨l', e'⟩ := reached
      cases e' with
      | file text => simp [filesAt, leadsTo, hr]
      | link target => exact absurd rfl (resolve_ne_link hr target)
      | dir =>
        -- a path that could be resolved is not too long, so only the stack decides
        have hshort := size_le_of_resolve hr
        cases ha : ancestor? stack l' with
        | none =>
          have hnew : l' ∉ stack.map Prod.snd := ancestor?_eq_none_iff.1 ha
          simp only [filesAt, leadsTo, hr, ha]
          constructor
          · intro h
            exact .inr (.inr (.inr ⟨l', rfl, hshort, .inr hnew, h⟩))
          · rintro (⟨_, _, -, h, -⟩ | ⟨_, _, a, -, h, h', -⟩ | ⟨h, -⟩ | ⟨_, h, -, -, h'⟩)
            · cases h
            · cases h
              rw [ha] at h'
              cases h'
            · cases h
            · cases h
              exact h'
        | some a =>
          have hin := mem_map_snd_of_ancestor? ha
          simp only [filesAt, leadsTo, hr, ha]
          constructor
          · intro h
            cases h
            exact .inr (.inl ⟨target, l', a, rfl, rfl, ha, rfl⟩)
          · rintro (⟨_, _, -, h, -⟩ | ⟨_, _, a', -, h, h', rfl⟩ | ⟨h, -⟩ | ⟨_, h, -, hnew, -⟩)
            · cases h
            · cases h
              cases ha.symm.trans h'
              rfl
            · cases h
            · cases h
              rcases hnew with hnew | hnew
              · cases hnew
              · exact absurd hin hnew

lemma filesBelow_eq_error_iff {fuel : Nat} {dir : String} {l : Location} {outer : List Ancestor}
    {f : WalkFault} :
    fs.filesBelow (fuel + 1) ((dir, l) :: outer) = .error f ↔
      ∃ before x after, (fs.children l).entries = before ++ x :: after ∧
        (∀ y ∈ before, ∃ found, fs.filesAt ((dir, l) :: outer) (fs.filesBelow fuel)
          (Path.join dir y.1) (l ++ [y.1]) y.2 = .ok found) ∧
        fs.filesAt ((dir, l) :: outer) (fs.filesBelow fuel) (Path.join dir x.1) (l ++ [x.1]) x.2 =
          .error f := by
  rw [filesBelow_succ, Fallible.map_eq_error_iff, Fallible.mapM_eq_error_iff]

lemma exists_filesBelow_eq_error {fuel : Nat} {dir name : String} {l : Location}
    {outer : List Ancestor} {e : Entry} {f : WalkFault} (hat : fs.at? (l ++ [name]) = some e)
    (h : fs.filesAt ((dir, l) :: outer) (fs.filesBelow fuel) (Path.join dir name) (l ++ [name]) e =
      .error f) : ∃ f', fs.filesBelow (fuel + 1) ((dir, l) :: outer) = .error f' := by
  rw [filesBelow_succ]
  have hmem : (name, e) ∈ (fs.children l).entries := mem_children_iff.2 hat
  obtain ⟨f', hf'⟩ := Fallible.exists_error_of_mem
    (fun x : String × Entry => fs.filesAt ((dir, l) :: outer) (fs.filesBelow fuel)
      (Path.join dir x.1) (l ++ [x.1]) x.2) hmem h
  exact ⟨f', Fallible.map_eq_error_iff.2 hf'⟩

namespace IsFaultBelow

variable {dir : String} {l : Location} {outer : List Ancestor} {way : List String}
  {f : WalkFault}

lemma exists_eq_succ (h : fs.IsFaultBelow dir l outer way f) {fuel : Nat}
    (hdeep : fs.IsDeepEnough fuel dir l outer) : ∃ k, fuel = k + 1 := by
  cases h with
  | unreachable hat => exact (hdeep.step hat).imp fun k hk => hk.1
  | cycle hat => exact (hdeep.step hat).imp fun k hk => hk.1
  | tooLong hat => exact (hdeep.step hat).imp fun k hk => hk.1
  | down hat => exact (hdeep.step hat).imp fun k hk => hk.1

/-- A fault stops the walk of the entry that the way to it starts with. -/
lemma exists_filesAt_eq_error (h : fs.IsFaultBelow dir l outer way f) {fuel : Nat}
    (hdeep : fs.IsDeepEnough (fuel + 1) dir l outer) :
    ∃ name rest e f', way = name :: rest ∧ fs.at? (l ++ [name]) = some e ∧
      fs.filesAt ((dir, l) :: outer) (fs.filesBelow fuel) (Path.join dir name) (l ++ [name]) e =
        .error f' := by
  induction h generalizing fuel with
  | @unreachable dir name target l outer fault hat hto =>
    exact ⟨name, [], _, _, rfl, hat, filesAt_eq_error_iff.2 (.inl ⟨_, _, rfl, hto, rfl⟩)⟩
  | @cycle dir name target a l l' outer hat hto hback =>
    exact ⟨name, [], _, _, rfl, hat,
      filesAt_eq_error_iff.2 (.inr (.inl ⟨_, _, _, rfl, hto, hback, rfl⟩))⟩
  | @tooLong dir name l outer hat hlong =>
    exact ⟨name, [], _, _, rfl, hat,
      filesAt_eq_error_iff.2 (.inr (.inr (.inl ⟨rfl, hlong, rfl⟩)))⟩
  | @down dir name l l' outer e way f hat hto hshort hnew hbelow ih =>
    -- the walk below fails, if not with this fault then with one that it meets before
    obtain ⟨k, hk, hstep⟩ := hdeep.step hat
    obtain rfl : fuel = k := by omega
    have hdeep' := hstep l' hto hnew
    obtain ⟨k, rfl⟩ := hbelow.exists_eq_succ hdeep'
    obtain ⟨name', rest, e', f', rfl, hat', herror⟩ := ih hdeep'
    obtain ⟨f'', hfault⟩ := exists_filesBelow_eq_error hat' herror
    exact ⟨name, _, e, f'', rfl, hat,
      filesAt_eq_error_iff.2 (.inr (.inr (.inr ⟨l', hto, hshort, hnew, hfault⟩)))⟩

lemma filesBelow_ne_ok (h : fs.IsFaultBelow dir l outer way f) {fuel : Nat}
    (hdeep : fs.IsDeepEnough fuel dir l outer) (files : List String) :
    fs.filesBelow fuel ((dir, l) :: outer) ≠ .ok files := by
  obtain ⟨k, rfl⟩ := h.exists_eq_succ hdeep
  obtain ⟨name, rest, e, f', -, hat, herror⟩ := h.exists_filesAt_eq_error hdeep
  obtain ⟨f'', hf''⟩ := exists_filesBelow_eq_error hat herror
  rw [hf'']
  rintro ⟨⟩

lemma unique (h : fs.IsFaultBelow dir l outer way f) {f' : WalkFault}
    (h' : fs.IsFaultBelow dir l outer way f') : f = f' := by
  -- what is at a location and where a path leads are functions, so the kinds exclude each other
  induction h with
  | unreachable hat hto =>
    cases h' with
    | unreachable hat' hto' =>
      cases hto.symm.trans hto'
      rfl
    | cycle hat' hto' => cases hto.symm.trans hto'
    | tooLong hat' => cases hat.symm.trans hat'
    | down hat' hto' hshort' hnew' hbelow' => cases hbelow'
  | cycle hat hto hback =>
    cases h' with
    | unreachable hat' hto' => cases hto.symm.trans hto'
    | cycle hat' hto' hback' =>
      cases hto.symm.trans hto'
      cases hback.symm.trans hback'
      rfl
    | tooLong hat' => cases hat.symm.trans hat'
    | down hat' hto' hshort' hnew' hbelow' => cases hbelow'
  | tooLong hat hlong =>
    cases h' with
    | unreachable hat' hto' => cases hat.symm.trans hat'
    | cycle hat' hto' hback' => cases hat.symm.trans hat'
    | tooLong hat' hlong' => rfl
    | down hat' hto' hshort' hnew' hbelow' => cases hbelow'
  | down hat hto hshort hnew hbelow ih =>
    cases h' with
    | unreachable hat' hto' => cases hbelow
    | cycle hat' hto' hback' => cases hbelow
    | tooLong hat' hlong' => cases hbelow
    | down hat' hto' hshort' hnew' hbelow' =>
      cases hat.symm.trans hat'
      cases hto.symm.trans hto'
      exact ih hbelow'

lemma of_cons {name : String} {rest : List String} {l' : Location} {e : Entry}
    (h : fs.IsFaultBelow dir l outer (name :: rest) f)
    (hat : fs.at? (l ++ [name]) = some e)
    (hto : fs.leadsTo (Path.join dir name) (l ++ [name]) e = .ok (l', .dir))
    (hshort : (Path.join dir name).utf8ByteSize ≤ maxPath)
    (hnew : e = .dir ∨ l' ∉ ((dir, l) :: outer).map Prod.snd) :
    fs.IsFaultBelow (Path.join dir name) l' ((dir, l) :: outer) rest f := by
  cases h with
  | unreachable hat' hto' =>
    cases hat.symm.trans hat'
    cases hto.symm.trans hto'
  | cycle hat' hto' hback =>
    cases hat.symm.trans hat'
    cases hto.symm.trans hto'
    rcases hnew with hnew | hnew
    · cases hnew
    · exact absurd (mem_map_snd_of_ancestor? hback) hnew
  | tooLong hat' hlong => exact absurd hlong (Nat.not_lt.2 hshort)
  | down hat' hto' hshort' hnew' hbelow =>
    cases hat.symm.trans hat'
    cases hto.symm.trans hto'
    exact hbelow

end IsFaultBelow

/-! ### The first fault -/

/-- The entry at which the walk of a directory fails has a fault, which comes first of those on the
ways that start with it. -/
lemma exists_isFaultBelow_of_filesAt {fuel : Nat} {dir name : String} {l : Location}
    {outer : List Ancestor} {e : Entry} {f : WalkFault}
    (hat : fs.at? (l ++ [name]) = some e)
    (h : fs.filesAt ((dir, l) :: outer) (fs.filesBelow fuel) (Path.join dir name) (l ++ [name]) e =
      .error f)
    (hbelow : ∀ l', fs.leadsTo (Path.join dir name) (l ++ [name]) e = .ok (l', .dir) →
      e = .dir ∨ l' ∉ ((dir, l) :: outer).map Prod.snd →
      fs.filesBelow fuel ((Path.join dir name, l') :: (dir, l) :: outer) = .error f →
      ∃ way, fs.IsFirstFaultBelow (Path.join dir name) l' ((dir, l) :: outer) way f) :
    ∃ rest, fs.IsFaultBelow dir l outer (name :: rest) f ∧
      ∀ rest' f', fs.IsFaultBelow dir l outer (name :: rest') f' → rest' = rest ∨ rest < rest' := by
  have hnil : ∀ rest' : List String, rest' = [] ∨ [] < rest' := by
    rintro (_ | ⟨name, rest'⟩)
    · exact .inl rfl
    · exact .inr (List.nil_lt_cons name rest')
  rcases filesAt_eq_error_iff.1 h with ⟨target, fault, rfl, hto, rfl⟩ |
    ⟨target, l', a, rfl, hto, hback, rfl⟩ | ⟨rfl, hlong, rfl⟩ | ⟨l', hto, hshort, hnew, herror⟩
  · exact ⟨[], .unreachable hat hto, fun rest' _ _ => hnil rest'⟩
  · exact ⟨[], .cycle hat hto hback, fun rest' _ _ => hnil rest'⟩
  · exact ⟨[], .tooLong hat hlong, fun rest' _ _ => hnil rest'⟩
  · obtain ⟨way, hway⟩ := hbelow l' hto hnew herror
    exact ⟨way, .down hat hto hshort hnew hway.isFault, fun rest' f' h' =>
      hway.first rest' f' (h'.of_cons hat hto hshort hnew)⟩

/-- A walk that fails does so with the first of all faults. -/
lemma exists_isFirstFaultBelow {fuel : Nat} {dir : String} {l : Location} {outer : List Ancestor}
    {f : WalkFault} (hdeep : fs.IsDeepEnough fuel dir l outer)
    (h : fs.filesBelow fuel ((dir, l) :: outer) = .error f) :
    ∃ way, fs.IsFirstFaultBelow dir l outer way f := by
  induction fuel generalizing dir l outer with
  | zero => cases h
  | succ fuel ih =>
    obtain ⟨before, x, after, hentries, hbefore, hx⟩ := filesBelow_eq_error_iff.1 h
    have hmem : ∀ {y}, y ∈ before ++ x :: after → fs.at? (l ++ [y.1]) = some y.2 := fun hy =>
      mem_children_iff.1 (hentries ▸ hy)
    have hat : fs.at? (l ++ [x.1]) = some x.2 := hmem (by simp)
    have hsorted := hentries ▸ (fs.children l).sorted
    obtain ⟨k, hk, hstep⟩ := hdeep.step hat
    obtain rfl : fuel = k := by omega
    obtain ⟨rest, hfault, hfirst⟩ := exists_isFaultBelow_of_filesAt hat hx
      fun l' hto hnew herror => ih (hstep l' hto hnew) herror
    refine ⟨x.1 :: rest, hfault, fun way' f' h' => ?_⟩
    obtain ⟨name, rest', e, f'', rfl, hat', herror⟩ := h'.exists_filesAt_eq_error hdeep
    have hin : (name, e) ∈ before ++ x :: after := hentries ▸ mem_children_iff.2 hat'
    rcases List.mem_append.1 hin with hin | hin
    · -- the walk of an entry before the failing one succeeds
      obtain ⟨found, hfound⟩ := hbefore _ hin
      cases herror.symm.trans hfound
    rcases List.mem_cons.1 hin with rfl | hin
    · -- the failing entry itself: the faults behind it are in order by induction
      rcases hfirst rest' f' h' with rfl | hlt
      · exact .inl rfl
      · exact .inr (List.cons_lt_cons_iff.2 (.inr ⟨rfl, hlt⟩))
    · -- an entry after it has a greater name
      obtain ⟨-, hcons, -⟩ := List.pairwise_append.1 hsorted
      have hlt := (List.pairwise_cons.1 hcons).1 (name, e) hin
      exact .inr (List.cons_lt_cons_iff.2 (.inl hlt))

lemma IsFirstFaultBelow.unique {dir : String} {l : Location} {outer : List Ancestor}
    {way way' : List String} {f f' : WalkFault} (h : fs.IsFirstFaultBelow dir l outer way f)
    (h' : fs.IsFirstFaultBelow dir l outer way' f') : f = f' := by
  rcases h.first way' f' h'.isFault with rfl | hlt
  · exact h.isFault.unique h'.isFault
  · rcases h'.first way f h.isFault with rfl | hlt'
    · exact h.isFault.unique h'.isFault
    · exact absurd hlt' (List.lt_asymm hlt)

/-! ### The walk of a tree -/

/-- The walk of a tree fails with the first fault that it comes upon. -/
theorem walk_eq_error_iff {tree : String} {l : Location} (htree : fs.resolve tree = .ok (l, .dir))
    {f : WalkFault} : fs.walk tree = .error f ↔ fs.IsFirstFault tree f := by
  rw [walk_of_resolve htree]
  have hdeep := isDeepEnough_walkDepth fs tree l
  constructor
  · intro h
    obtain ⟨way, hway⟩ := exists_isFirstFaultBelow hdeep h
    exact ⟨l, way, htree, hway⟩
  · rintro ⟨l', way, htree', hway⟩
    cases htree.symm.trans htree'
    -- the walk fails, and there is only one first fault
    cases h : fs.filesBelow fs.walkDepth [(tree, l)] with
    | ok files => exact absurd h (hway.isFault.filesBelow_ne_ok hdeep files)
    | error f' =>
      obtain ⟨way', hway'⟩ := exists_isFirstFaultBelow hdeep h
      rw [hway.unique hway']

/-- The walk of a tree succeeds if it comes upon no fault. -/
theorem exists_walk_eq_ok_iff {tree : String} {l : Location}
    (htree : fs.resolve tree = .ok (l, .dir)) :
    (∃ files, fs.walk tree = .ok files) ↔ fs.HasNoFault tree := by
  rw [walk_of_resolve htree]
  have hdeep := isDeepEnough_walkDepth fs tree l
  constructor
  · rintro ⟨files, hfiles⟩ l' way f htree' hfault
    cases htree.symm.trans htree'
    exact hfault.filesBelow_ne_ok hdeep files hfiles
  · intro hnone
    cases h : fs.filesBelow fs.walkDepth [(tree, l)] with
    | ok files => exact ⟨files, rfl⟩
    | error f =>
      obtain ⟨way, hway⟩ := exists_isFirstFaultBelow hdeep h
      exact absurd hway.isFault (hnone l way f htree)

lemma yamlFiles_eq_error_iff {tree : String} {e : RunError} :
    fs.yamlFiles tree = .error e ↔ (fs.isDir tree = false ∧ e = .dirNotFound tree) ∨
      ∃ f, fs.IsFirstFault tree f ∧ e = .walkFailed f.path f.message := by
  unfold yamlFiles
  split
  · rename_i hdir
    obtain ⟨l, htree⟩ := isDir_iff.1 hdir
    simp only [hdir, Bool.true_eq_false, false_and, false_or, ← walk_eq_error_iff htree]
    cases fs.walk tree with
    | ok files => simp
    | error f => simp [eq_comm]
  · rename_i hdir
    have hnone : ∀ f, ¬ fs.IsFirstFault tree f := by
      rintro f ⟨l, way, htree, -⟩
      exact hdir (isDir_iff.2 ⟨l, htree⟩)
    simp [hdir, hnone, eq_comm]

end ShardCheck.FileSystem
