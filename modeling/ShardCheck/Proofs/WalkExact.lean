import Mathlib.Tactic.Common
import ShardCheck.Proofs.Below
import ShardCheck.Proofs.LinkFree

/-!
# What a walk returns

A walk without a fault returns exactly the files that the paths below its tree lead to, in the
lexicographic order of the names on the way. How the file system lists its entries makes no
difference. Only where a path is too long do the walk and the paths part: a directory is not opened
by such a path, but a file is returned under it.
-/

namespace ShardCheck

open ShardCheck.Path

/-! ### Extensions -/

/-- The extension of a name is what stands behind its last point, if something stands before it. -/
lemma Path.extensionOf_eq_some_iff {name ext : List Char} :
    extensionOf name = some ext ↔ '.' ∉ ext ∧ ∃ x ≠ [], name = x ++ '.' :: ext := by
  have hcut : ∀ {x : List Char}, '.' ∉ ext →
      (x ++ '.' :: ext).reverse.takeWhile (· != '.') = ext.reverse := fun hext => by
    rw [List.reverse_append, List.reverse_cons, List.append_assoc, List.takeWhile_append_of_pos]
    · simp
    · intro c hc
      rw [bne_iff_ne]
      rintro rfl
      exact hext (List.mem_reverse.1 hc)
  rw [extensionOf]
  constructor
  · intro h
    obtain ⟨hlength, rfl⟩ : _ ∧ (name.reverse.takeWhile (· != '.')).reverse = ext := by
      simpa only [Option.ite_none_right_eq_some, Option.some.injEq] using h
    have hsplit := @List.takeWhile_append_dropWhile _ (· != '.') name.reverse
    cases hrest : name.reverse.dropWhile (· != '.') with
    | nil =>
      -- without a point the last part is the whole name
      have hsame := congrArg List.length hsplit
      simp only [hrest, List.append_nil, List.length_reverse] at hsame hlength
      omega
    | cons c rest =>
      have hpoint := List.head?_dropWhile_not (· != '.') name.reverse
      obtain rfl : c = '.' := by simpa [hrest] using hpoint
      have hname := (congrArg List.reverse hsplit).symm
      rw [hrest, List.reverse_reverse, List.reverse_append, List.reverse_cons, List.append_assoc]
        at hname
      refine ⟨fun hmem => ?_, rest.reverse, ?_, hname⟩
      · have hall := @List.all_takeWhile _ (· != '.') name.reverse
        simpa using List.all_eq_true.1 hall _ (List.mem_reverse.1 hmem)
      · intro hnil
        have hsame := congrArg List.length hname
        simp only [hnil, List.nil_append, List.length_append, List.length_singleton] at hsame
        omega
  · rintro ⟨hext, x, hx, rfl⟩
    simp only [hcut hext, List.reverse_reverse]
    rw [if_pos]
    have hlength := List.length_pos_iff.2 hx
    simp
    omega

lemma Path.extension?_eq_yaml_iff {path name : String} (hname : fileName? path = some name) :
    extension? path = some "yaml" ↔ ∃ x ≠ "", name = x ++ ".yaml" := by
  have hread : extension? path = some "yaml" ↔ extensionOf name.toList = some "yaml".toList := by
    cases hext : extensionOf name.toList with
    | none => simp [extension?, hname, hext]
    | some ext => simp [extension?, hname, hext, ← String.toList_inj]
  rw [hread, extensionOf_eq_some_iff, and_iff_right (by decide)]
  constructor
  · rintro ⟨x, hx, heq⟩
    refine ⟨String.ofList x, fun hnil => hx ?_, ?_⟩
    · rw [← String.toList_ofList (l := x), hnil]
      rfl
    · rw [← String.toList_inj, heq]
      simp [String.toList_append]
  · rintro ⟨x, hx, rfl⟩
    exact ⟨x.toList, mt String.toList_eq_nil_iff.1 hx, by simp [String.toList_append]⟩

namespace FileSystem

variable {fs : FileSystem}

/-! ### Files at paths -/

/-- The names of all entries are as short as the file system has them. -/
def HasShortNames (fs : FileSystem) : Prop :=
  ∀ x ∈ fs.entries, ∀ name ∈ x.1, name.utf8ByteSize ≤ maxName

instance (fs : FileSystem) : Decidable fs.HasShortNames :=
  inferInstanceAs (Decidable (∀ x ∈ fs.entries, ∀ name ∈ x.1, name.utf8ByteSize ≤ maxName))

lemma HasShortNames.of_at? (h : fs.HasShortNames) {l : Location} {name : String} {e : Entry}
    (hat : fs.at? (l ++ [name]) = some e) : name.utf8ByteSize ≤ maxName :=
  h (l ++ [name], e) (mem_entries_of_at? hat (by simp)) name (by simp)

/-- The names lead from a tree to a file, or their path is too long for that and they are the names
of a directory and of a file in it. -/
def IsFileAt (fs : FileSystem) (tree : String) (names : List String) : Prop :=
  (∃ l text, fs.resolve (joinAll tree names) = .ok (l, .file text)) ∨
    maxPath < (joinAll tree names).utf8ByteSize ∧ ∃ up name l text, names = up ++ [name] ∧
      fs.resolve (joinAll tree up) = .ok (l, .dir) ∧ fs.at? (l ++ [name]) = some (.file text)

lemma isFileAt_cons_iff {tree name : String} {rest : List String} (hne : rest ≠ []) :
    fs.IsFileAt tree (name :: rest) ↔ fs.IsFileAt (join tree name) rest := by
  rw [IsFileAt, IsFileAt, joinAll_cons]
  refine or_congr_right (and_congr_right fun _ => ?_)
  constructor
  · rintro ⟨up, last, l, text, heq, hdir, hat⟩
    cases up with
    | nil => exact absurd (List.cons.inj heq).2 hne
    | cons first up =>
      obtain ⟨rfl, rfl⟩ := List.cons.inj heq
      exact ⟨up, last, l, text, rfl, hdir, hat⟩
  · rintro ⟨up, last, l, text, rfl, hdir, hat⟩
    exact ⟨name :: up, last, l, text, rfl, hdir, hat⟩

/-- The path that a file is found below leads to a directory. -/
lemma IsFileAt.exists_resolve {tree : String} {names : List String} (h : fs.IsFileAt tree names)
    (htree : tree ≠ "") (hnames : ∀ name ∈ names, IsFileName name) (hne : names ≠ []) :
    ∃ l, fs.resolve tree = .ok (l, .dir) := by
  rcases h with ⟨l, text, hfile⟩ | ⟨-, up, last, l, text, rfl, hdir, -⟩
  · exact exists_resolve_of_joinAll htree hnames hne hfile
  · by_cases hup : up = []
    · subst hup
      exact ⟨l, hdir⟩
    · exact exists_resolve_of_joinAll htree
        (fun name hname => hnames name (List.mem_append_left _ hname)) hup hdir

section Step

variable {dir name : String} {l l' : Location}

/-- A path leads to where the walk goes. -/
lemma resolve_join_iff_leadsTo (hshort : fs.HasShortNames) (hdir : fs.resolve dir = .ok (l, .dir))
    (hname : IsFileName name) (hsize : (join dir name).utf8ByteSize ≤ maxPath) {e' : Entry} :
    fs.resolve (join dir name) = .ok (l', e') ↔ ∃ e, fs.at? (l ++ [name]) = some e ∧
      fs.leadsTo (join dir name) (l ++ [name]) e = .ok (l', e') := by
  by_cases hlink : ∃ target, fs.at? (l ++ [name]) = some (.link target)
  · obtain ⟨target, hat⟩ := hlink
    simp [hat, leadsTo]
  · have hnot : ∀ {e}, fs.at? (l ++ [name]) = some e → ∀ target, e ≠ .link target :=
      fun hat target he => hlink ⟨target, he ▸ hat⟩
    rw [resolve_join_eq_ok_iff hdir hname hsize fun target hat => hlink ⟨target, hat⟩]
    constructor
    · rintro ⟨-, rfl, hat⟩
      exact ⟨e', hat, leadsTo_of_ne_link (hnot hat) _ _⟩
    · rintro ⟨e, hat, hto⟩
      cases (leadsTo_of_ne_link (hnot hat) _ _).symm.trans hto
      exact ⟨hshort.of_at? hat, rfl, hat⟩

/-- A file in a directory is at its path. -/
lemma isFileAt_singleton_iff (hshort : fs.HasShortNames) (hdir : fs.resolve dir = .ok (l, .dir))
    (hname : IsFileName name) : fs.IsFileAt dir [name] ↔ ∃ e l' text,
      fs.at? (l ++ [name]) = some e ∧
        fs.leadsTo (join dir name) (l ++ [name]) e = .ok (l', .file text) := by
  by_cases hsize : (join dir name).utf8ByteSize ≤ maxPath
  · have hresolve : ∀ {l' e'}, fs.resolve (join dir name) = .ok (l', e') ↔ _ :=
      resolve_join_iff_leadsTo hshort hdir hname hsize
    rw [IsFileAt, joinAll_cons, joinAll_nil, or_iff_left fun h => absurd h.1 (Nat.not_lt.2 hsize)]
    simp only [hresolve]
    constructor
    · rintro ⟨l', text, e, hat, hto⟩
      exact ⟨e, l', text, hat, hto⟩
    · rintro ⟨e, l', text, hat, hto⟩
      exact ⟨l', text, e, hat, hto⟩
  · rw [IsFileAt, joinAll_cons, joinAll_nil]
    constructor
    · rintro (⟨l', text, h⟩ | ⟨-, up, last, l', text, heq, hdir', hat⟩)
      · exact absurd (size_le_of_resolve h) hsize
      · obtain ⟨rfl, rfl⟩ : up = [] ∧ last = name := by
          simpa [List.singleton_eq_append_iff, eq_comm] using heq
        cases hdir.symm.trans hdir'
        exact ⟨_, _, _, hat, rfl⟩
    · rintro ⟨e, l', text, hat, hto⟩
      -- the path is too long to be resolved, but the walk only joins it
      refine .inr ⟨Nat.not_le.1 hsize, [], name, l, text, rfl, hdir, ?_⟩
      cases e with
      | link target => exact absurd (size_le_of_resolve hto) hsize
      | file text' =>
        cases hto
        exact hat
      | dir => cases hto

/-- Where there is no fault, the walk goes on into every directory, and there is none below it. -/
lemma noFault_of_leadsTo {outer : List Ancestor}
    (hnone : ∀ way f, ¬ fs.IsFaultBelow dir l outer way f) {e : Entry}
    (hat : fs.at? (l ++ [name]) = some e)
    (hto : fs.leadsTo (join dir name) (l ++ [name]) e = .ok (l', .dir)) :
    (join dir name).utf8ByteSize ≤ maxPath ∧
      ∀ way f, ¬ fs.IsFaultBelow (join dir name) l' ((dir, l) :: outer) way f := by
  cases e with
  | file text => cases hto
  | dir =>
    have hshort : (join dir name).utf8ByteSize ≤ maxPath :=
      Nat.not_lt.1 fun hlong => hnone _ _ (.tooLong hat hlong)
    exact ⟨hshort, fun way f h => hnone _ _ (.down hat hto hshort (.inl rfl) h)⟩
  | link target =>
    have hshort := size_le_of_resolve hto
    have hnew : l' ∉ ((dir, l) :: outer).map Prod.snd := by
      rw [← ancestor?_eq_none_iff]
      cases hback : ancestor? ((dir, l) :: outer) l' with
      | none => rfl
      | some a => exact absurd (.cycle hat hto hback) (hnone _ _)
    exact ⟨hshort, fun way f h => hnone _ _ (.down hat hto hshort (.inr hnew) h)⟩

end Step

/-! ### Files below a directory -/

lemma IsFileBelow.exists_names (hfs : fs.HasFileNames) {dir path : String} {l : Location}
    (h : fs.IsFileBelow dir l path) :
    ∃ names, names ≠ [] ∧ (∀ name ∈ names, IsFileName name) ∧ path = joinAll dir names := by
  induction h with
  | @file dir l l' name e text hat hto =>
    exact ⟨[name], by simp, by simpa using hfs.of_at? hat, rfl⟩
  | @down dir l l' name path e hat hto _ ih =>
    obtain ⟨names, -, hnames, rfl⟩ := ih
    exact ⟨name :: names, by simp, List.forall_mem_cons.2 ⟨hfs.of_at? hat, hnames⟩, rfl⟩

/-- The names of a path are those of the directories that it goes down through, and of the file. -/
lemma isFileBelow_joinAll_cons_iff (hfs : fs.HasFileNames) {dir name : String} {l : Location}
    {rest : List String} (h : ∀ n ∈ name :: rest, IsFileName n) :
    fs.IsFileBelow dir l (joinAll dir (name :: rest)) ↔ ∃ e l', fs.at? (l ++ [name]) = some e ∧
      (rest = [] ∧ (∃ text, fs.leadsTo (join dir name) (l ++ [name]) e = .ok (l', .file text)) ∨
        rest ≠ [] ∧ fs.leadsTo (join dir name) (l ++ [name]) e = .ok (l', .dir) ∧
          fs.IsFileBelow (join dir name) l' (joinAll (join dir name) rest)) := by
  constructor
  · intro hbelow
    generalize hpath : joinAll dir (name :: rest) = path at hbelow
    cases hbelow with
    | @file _ _ l' name' e text hat hto =>
      have hnames : ∀ n ∈ [name'], IsFileName n := by simpa using hfs.of_at? hat
      cases joinAll_injective dir h hnames hpath
      exact ⟨e, l', hat, .inl ⟨rfl, text, hto⟩⟩
    | @down _ _ l' name' _ e hat hto hbelow =>
      obtain ⟨names, hne, hnames, rfl⟩ := hbelow.exists_names hfs
      cases joinAll_injective dir h (List.forall_mem_cons.2 ⟨hfs.of_at? hat, hnames⟩) hpath
      exact ⟨e, l', hat, .inr ⟨hne, hto, hbelow⟩⟩
  · rintro ⟨e, l', hat, ⟨rfl, text, hto⟩ | ⟨-, hto, hbelow⟩⟩
    · exact .file hat hto
    · exact .down hat hto hbelow

/-- Where a walk comes upon no fault, the files below a directory are those that the paths below it
lead to. -/
lemma isFileBelow_joinAll_iff (hfs : fs.HasFileNames) (hshort : fs.HasShortNames) {dir : String}
    {l : Location} {outer : List Ancestor} (hdir : fs.resolve dir = .ok (l, .dir))
    (hnone : ∀ way f, ¬ fs.IsFaultBelow dir l outer way f) {names : List String}
    (h : ∀ name ∈ names, IsFileName name) (hne : names ≠ []) :
    fs.IsFileBelow dir l (joinAll dir names) ↔ fs.IsFileAt dir names := by
  -- induction on the names: each step down keeps that there is no fault below
  induction names generalizing dir l outer with
  | nil => exact absurd rfl hne
  | cons name rest ih =>
    obtain ⟨hname, hrest⟩ := List.forall_mem_cons.1 h
    rw [isFileBelow_joinAll_cons_iff hfs h]
    by_cases hnil : rest = []
    · subst hnil
      rw [isFileAt_singleton_iff hshort hdir hname]
      simp
    · rw [isFileAt_cons_iff hnil]
      constructor
      · rintro ⟨e, l', hat, ⟨hnil', -⟩ | ⟨-, hto, hbelow⟩⟩
        · exact absurd hnil' hnil
        · obtain ⟨hsize, hnone'⟩ := noFault_of_leadsTo hnone hat hto
          have hdir' := (resolve_join_iff_leadsTo hshort hdir hname hsize).2 ⟨e, hat, hto⟩
          exact (ih hdir' hnone' hrest hnil).1 hbelow
      · intro hfile
        obtain ⟨l', hdir'⟩ := hfile.exists_resolve (join_ne_empty hname) hrest hnil
        have hsize := size_le_of_resolve hdir'
        obtain ⟨e, hat, hto⟩ := (resolve_join_iff_leadsTo hshort hdir hname hsize).1 hdir'
        obtain ⟨-, hnone'⟩ := noFault_of_leadsTo hnone hat hto
        exact ⟨e, l', hat, .inr ⟨hnil, hto, (ih hdir' hnone' hrest hnil).2 hfile⟩⟩

/-! ### The order of the entries -/

/-- A file system with the same entries, which are listed in another order. -/
structure IsReordered (fs fs' : FileSystem) : Prop where
  workDir : fs'.workDir = fs.workDir
  entries : fs'.entries.Perm fs.entries
  nodup : (fs.entries.map Prod.fst).Nodup

/-- Of entries at different locations each is found. -/
lemma lookup_eq_some_iff_mem {es : List (Location × Entry)} (h : (es.map Prod.fst).Nodup)
    {l : Location} {e : Entry} : es.lookup l = some e ↔ (l, e) ∈ es := by
  rw [List.lookup_eq_some_iff]
  constructor
  · rintro ⟨before, after, rfl, -⟩
    simp
  · intro hmem
    obtain ⟨before, after, rfl⟩ := List.append_of_mem hmem
    refine ⟨before, after, rfl, fun x hx => bne_iff_ne.2 fun heq => ?_⟩
    rw [List.map_append, List.map_cons] at h
    exact (List.nodup_append.1 h).2.2 _ (List.mem_map_of_mem hx) _ List.mem_cons_self heq.symm

namespace IsReordered

variable {fs' : FileSystem} (h : IsReordered fs fs')

include h

lemma at?_eq (l : Location) : fs'.at? l = fs.at? l := by
  have hnodup : (fs'.entries.map Prod.fst).Nodup := (h.entries.map Prod.fst).nodup_iff.2 h.nodup
  have hlookup : fs'.entries.lookup l = fs.entries.lookup l := by
    ext e
    rw [lookup_eq_some_iff_mem hnodup, lookup_eq_some_iff_mem h.nodup, h.entries.mem_iff]
  rw [at?, at?, hlookup]

lemma children_eq (l : Location) : fs'.children l = fs.children l :=
  KeyMap.eq_of_get? fun name => by rw [get?_children, get?_children, h.at?_eq]

lemma follow_eq (ss : List String) (l : Location) (e : Entry) :
    fs'.follow ss l e = fs.follow ss l e := by
  induction ss generalizing l e with
  | nil => rfl
  | cons s ss ih => simp only [follow, ih, h.at?_eq]

lemma resolveFrom_eq (n : Nat) (ss : List String) (l : Location) :
    fs'.resolveFrom n ss l = fs.resolveFrom n ss l := by
  induction n generalizing ss l with
  | zero =>
    unfold resolveFrom
    rw [h.follow_eq]
  | succ n ih =>
    unfold resolveFrom
    simp only [h.follow_eq, ih]

lemma resolve_eq (path : String) : fs'.resolve path = fs.resolve path := by
  simp only [resolve, h.resolveFrom_eq, h.workDir]

lemma filesAt_eq : fs'.filesAt = fs.filesAt := by
  funext stack below path l e
  cases e with
  | link target => simp only [filesAt, h.resolve_eq]
  | file text => rfl
  | dir => rfl

lemma filesBelow_eq (fuel : Nat) : fs'.filesBelow fuel = fs.filesBelow fuel := by
  funext stack
  induction fuel generalizing stack with
  | zero => rfl
  | succ fuel ih =>
    cases stack with
    | nil => rfl
    | cons top outer =>
      obtain ⟨dir, l⟩ := top
      rw [filesBelow_succ, filesBelow_succ, h.children_eq, h.filesAt_eq, funext ih]

lemma yamlFiles_eq (tree : String) : fs'.yamlFiles tree = fs.yamlFiles tree := by
  have hwalk : fs'.walk tree = fs.walk tree := by
    simp only [walk, walkDepth, h.entries.length_eq, h.resolve_eq, h.filesBelow_eq]
  have hdir : fs'.isDir tree = fs.isDir tree := by
    unfold isDir
    rw [h.resolve_eq]
  rw [yamlFiles, yamlFiles, hdir, hwalk]

end IsReordered

/-! ### What is returned -/

/-- A configuration file below a tree without a fault is a file at names that end like one. -/
lemma mem_yamlFiles_iff_isFileAt (hfs : fs.HasFileNames) (hshort : fs.HasShortNames) {tree : String}
    {l : Location} (htree : fs.resolve tree = .ok (l, .dir)) (hnone : fs.HasNoFault tree)
    {files : List String} (hfiles : fs.yamlFiles tree = .ok files) (path : String) :
    path ∈ files ↔ ∃ names, names ≠ [] ∧ (∀ name ∈ names, IsFileName name) ∧
      path = joinAll tree names ∧ fs.IsFileAt tree names ∧
        ∃ x ≠ "", names.getLast? = some (x ++ ".yaml") := by
  have hnone' : ∀ way f, ¬ fs.IsFaultBelow tree l [] way f := fun way f => hnone l way f htree
  have hext : ∀ names : List String, names ≠ [] → (∀ name ∈ names, IsFileName name) →
      (extension? (joinAll tree names) = some "yaml" ↔
        ∃ x ≠ "", names.getLast? = some (x ++ ".yaml")) := fun names hne hnames => by
    have hname := fileName?_joinAll tree hnames hne
    rw [List.getLast?_eq_some_getLast hne] at hname ⊢
    simp only [extension?_eq_yaml_iff hname, Option.some.injEq]
  rw [mem_yamlFiles_iff hfiles]
  constructor
  · rintro ⟨⟨l', htree', hbelow⟩, hyaml⟩
    cases htree.symm.trans htree'
    obtain ⟨names, hne, hnames, rfl⟩ := hbelow.exists_names hfs
    exact ⟨names, hne, hnames, rfl,
      (isFileBelow_joinAll_iff hfs hshort htree hnone' hnames hne).1 hbelow,
      (hext names hne hnames).1 hyaml⟩
  · rintro ⟨names, hne, hnames, rfl, hfile, hyaml⟩
    exact ⟨⟨l, htree, (isFileBelow_joinAll_iff hfs hshort htree hnone' hnames hne).2 hfile⟩,
      (hext names hne hnames).2 hyaml⟩

/-- The names of files in the order of their ways are in the order of their bytes. -/
lemma AreAt.pairwise_bytes {files : List String} {tree : String} {ways : List (List String)}
    (h : AreAt files tree ways) : files.Pairwise fun path path' =>
      (FileInfo.namesUnder tree path).map Text.bytes <
        (FileInfo.namesUnder tree path').map Text.bytes := by
  have hunder : ∀ way ∈ ways, FileInfo.namesUnder tree (joinAll tree way) = way := fun way hway =>
    FileInfo.namesUnder_of_isBelow (isBelow_joinAll tree (h.names way hway))
  rw [h.files_eq, List.pairwise_map]
  refine h.sorted.imp_of_mem fun hway hway' hlt => ?_
  rw [hunder _ hway, hunder _ hway']
  exact List.map_lt (fun s t => (Text.lt_iff_bytes_lt s t).1) hlt

/-- A tree without a fault is listed to the end. The list has exactly the paths of files below the
tree whose last name goes on before `.yaml`, in the lexicographic order of the bytes of their names,
so each once. It is the same in whatever order the entries are listed. -/
theorem yamlFiles_exact (hfs : fs.HasFileNames) (hshort : fs.HasShortNames) {tree : String}
    {l : Location} (htree : fs.resolve tree = .ok (l, .dir)) (hnone : fs.HasNoFault tree) :
    ∃ files, fs.yamlFiles tree = .ok files ∧
      (∀ path, path ∈ files ↔ ∃ names, names ≠ [] ∧ (∀ name ∈ names, IsFileName name) ∧
        path = joinAll tree names ∧ fs.IsFileAt tree names ∧
          ∃ x ≠ "", names.getLast? = some (x ++ ".yaml")) ∧
      files.Nodup ∧
      (files.Pairwise fun path path' =>
        (FileInfo.namesUnder tree path).map Text.bytes <
          (FileInfo.namesUnder tree path').map Text.bytes) ∧
      ∀ fs', fs.IsReordered fs' → fs'.yamlFiles tree = .ok files := by
  obtain ⟨listed, hwalk⟩ := (exists_walk_eq_ok_iff htree).2 hnone
  have hfiles := yamlFiles_eq_ok_iff.2 ⟨isDir_iff.2 ⟨l, htree⟩, listed, hwalk, rfl⟩
  obtain ⟨ways, hways, -, -⟩ := exists_areAt_yamlFiles hfs hfiles
  have hsorted := hways.pairwise_bytes
  refine ⟨_, hfiles, mem_yamlFiles_iff_isFileAt hfs hshort htree hnone hfiles, ?_, hsorted,
    fun fs' h => by rw [h.yamlFiles_eq, hfiles]⟩
  refine hsorted.imp ?_
  rintro path _ hlt rfl
  exact List.lt_irrefl _ hlt

/-! ### Names of all kinds -/

/-- Directories, files and links whose names end like those of configurations, or nearly so. -/
def oddFiles : FileSystem where
  workDir := []
  entries :=
    [(["o"], .file (some "")), (["t"], .dir), (["t", ".yaml"], .file (some "")),
      (["t", "a"], .dir), (["t", "a", "x.yaml"], .file (some "")), (["t", "a-b"], .dir),
      (["t", "a-b", "x.yaml"], .file (some "")), (["t", "a.yaml"], .file (some "")),
      (["t", "d.yaml"], .dir), (["t", "l.yaml"], .link "a"), (["t", "m.yaml"], .link "../o"),
      (["t", "x.yml"], .file (some ""))]

/-- The files are listed by the names on the way, which is not the order of their paths:
`a-b/x.yaml` comes before `a/x.yaml` as a text. The directory is not listed, nor is the link to a
directory, but the file that is found through it. -/
theorem yamlFiles_oddFiles :
    oddFiles.HasFileNames ∧ oddFiles.HasShortNames ∧ oddFiles.resolve "/t" = .ok (["t"], .dir) ∧
      oddFiles.HasNoFault "/t" ∧
      oddFiles.yamlFiles "/t" =
        .ok ["/t/a/x.yaml", "/t/a-b/x.yaml", "/t/a.yaml", "/t/l.yaml/x.yaml", "/t/m.yaml"] ∧
      ({ oddFiles with entries := oddFiles.entries.reverse } : FileSystem).yamlFiles "/t" =
        .ok ["/t/a/x.yaml", "/t/a-b/x.yaml", "/t/a.yaml", "/t/l.yaml/x.yaml", "/t/m.yaml"] := by
  have hfs : oddFiles.HasFileNames := by decide
  have hshort : oddFiles.HasShortNames := by decide +kernel
  have htree : oddFiles.resolve "/t" = .ok (["t"], .dir) := by decide +kernel
  have hwalk : oddFiles.walk "/t" = .ok ["/t/.yaml", "/t/a/x.yaml", "/t/a-b/x.yaml", "/t/a.yaml",
      "/t/l.yaml/x.yaml", "/t/m.yaml", "/t/x.yml"] := by decide +kernel
  have hlist : oddFiles.yamlFiles "/t" = .ok ["/t/a/x.yaml", "/t/a-b/x.yaml", "/t/a.yaml",
      "/t/l.yaml/x.yaml", "/t/m.yaml"] := by decide +kernel
  have hnone := (exists_walk_eq_ok_iff htree).1 ⟨_, hwalk⟩
  obtain ⟨files, hfiles, -, -, -, hreordered⟩ := yamlFiles_exact hfs hshort htree hnone
  cases hlist.symm.trans hfiles
  exact ⟨hfs, hshort, htree, hnone, hlist, hreordered _ ⟨rfl, List.reverse_perm _, by decide⟩⟩

/-! ### Deep directories -/

def longName : String := String.ofList (List.replicate 250 'd')

/-- A configuration beside directories with long names, each of them inside of the one before. -/
def deepFiles : FileSystem where
  workDir := []
  entries := (["z.yaml"], .file (some "")) ::
    (List.range 17).map fun n => (List.replicate (n + 1) longName, .dir)

lemma isFileName_longName : IsFileName longName := by
  have hlist : longName.toList = List.replicate 250 'd' := String.toList_ofList
  have hne : ∀ s : String, s.toList.length < 250 → longName ≠ s := by
    rintro _ hlength rfl
    rw [hlist, List.length_replicate] at hlength
    exact Nat.lt_irrefl _ hlength
  refine ⟨hne "" (by decide), hne "." (by decide), hne ".." (by decide), ?_⟩
  rw [hlist, List.mem_replicate]
  decide

lemma size_longName : longName.utf8ByteSize = 250 := by decide +kernel

lemma mem_deepFiles_iff {x : Location × Entry} : x ∈ deepFiles.entries ↔
    x = (["z.yaml"], .file (some "")) ∨
      ∃ n < 17, x = (List.replicate (n + 1) longName, .dir) := by
  simp [deepFiles, eq_comm]

lemma at?_deepFiles {n : Nat} (h : n ≤ 17) :
    deepFiles.at? (List.replicate n longName) = some .dir := by
  cases n with
  | zero => rfl
  | succ n =>
    have hnodup : (deepFiles.entries.map Prod.fst).Nodup := by
      rw [deepFiles, List.map_cons, List.map_map, List.nodup_cons, List.mem_map]
      refine ⟨?_, List.nodup_range.map fun n n' h => ?_⟩
      · rintro ⟨n, -, h⟩
        have hmem : longName ∈ List.replicate (n + 1) longName := List.mem_cons_self
        rw [show List.replicate (n + 1) longName = ["z.yaml"] from h] at hmem
        exact absurd (List.mem_singleton.1 hmem) (by decide +kernel)
      · simpa using congrArg List.length h
    rw [at?, if_neg (by simp), lookup_eq_some_iff_mem hnodup, mem_deepFiles_iff]
    exact .inr ⟨n, h, rfl⟩

lemma isTree_deepFiles : deepFiles.IsTree := by
  intro x hx
  rcases mem_deepFiles_iff.1 hx with rfl | ⟨n, hn, rfl⟩
  · rfl
  · rw [List.dropLast_replicate]
    exact at?_deepFiles (Nat.le_of_lt hn)

lemma isLinkFree_deepFiles : deepFiles.IsLinkFree [] := by
  intro l target _ hat
  have hne : l ≠ [] := by
    rintro rfl
    cases hat
  rcases mem_deepFiles_iff.1 (mem_entries_of_at? hat hne) with h | ⟨n, -, h⟩
  · cases h
  · cases h

lemma resolve_deepFiles : deepFiles.resolve "/" = .ok ([], .dir) := by
  decide +kernel

lemma yamlFiles_deepFiles_ne_ok (files : List String) : deepFiles.yamlFiles "/" ≠ .ok files := by
  intro hfiles
  have hsize := (isLinkFree_deepFiles.exists_yamlFiles_iff isTree_deepFiles resolve_deepFiles).1
    ⟨files, hfiles⟩ _ (at?_deepFiles (Nat.le_refl 17))
  have hjoin := @size_joinAll "/" (List.replicate 17 longName)
    (fun name hname => List.eq_of_mem_replicate hname ▸ isFileName_longName)
    250 fun name hname => List.eq_of_mem_replicate hname ▸ Nat.le_of_eq size_longName.symm
  rw [List.length_replicate] at hjoin
  have hlong : maxPath < 4250 := by decide
  omega

/-- There is no link, but the innermost directory cannot be opened, and so the configuration is not
returned. -/
theorem yamlFiles_deepFiles :
    deepFiles.HasFileNames ∧ deepFiles.HasShortNames ∧ deepFiles.IsLinkFree [] ∧
      deepFiles.resolve "/" = .ok ([], .dir) ∧
      deepFiles.resolve "/z.yaml" = .ok (["z.yaml"], .file (some "")) ∧
      ∀ files, deepFiles.yamlFiles "/" ≠ .ok files := by
  have hnames : ∀ x ∈ deepFiles.entries, ∀ name ∈ x.1, name = "z.yaml" ∨ name = longName := by
    intro x hx name hname
    rcases mem_deepFiles_iff.1 hx with rfl | ⟨n, -, rfl⟩
    · exact .inl (List.mem_singleton.1 hname)
    · exact .inr (List.eq_of_mem_replicate hname)
  refine ⟨fun x hx name hname => ?_, fun x hx name hname => ?_, isLinkFree_deepFiles,
    resolve_deepFiles, by decide +kernel, yamlFiles_deepFiles_ne_ok⟩
  · rcases hnames x hx name hname with rfl | rfl
    · decide
    · exact isFileName_longName
  · rcases hnames x hx name hname with rfl | rfl
    · decide
    · rw [size_longName]
      decide

end FileSystem

end ShardCheck
