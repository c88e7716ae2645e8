import Mathlib.Tactic.Common
import ShardCheck.FileSystem
import ShardCheck.Proofs.Path

/-!
# Resolving a path

A path is resolved along its segments, and every link on the way puts other segments in the place of
its own. Where a path leads to a directory, a name joined to it leads to what the directory has
under this name. A path with names joined to it leads nowhere unless the path itself leads to a
directory.
-/

namespace ShardCheck.FileSystem

open ShardCheck.Path

variable {fs : FileSystem}

/-! ### Links on the way -/

/-- Some segments lead from a location to an entry, with at most so many links on the way. -/
inductive Resolves (fs : FileSystem) :
    Nat → List String → Location → Location → Entry → Prop where
  | found {n : Nat} {ss : List String} {l l' : Location} {e : Entry}
      (h : fs.follow ss l .dir = .ok (.found l' e)) : Resolves fs n ss l l' e
  | link {n : Nat} {ss left : List String} {l l' dir : Location} {e : Entry} {target : String}
      (h : fs.follow ss l .dir = .ok (.link target dir left)) (hne : target ≠ "")
      (hrest :
        Resolves fs n (segments target ++ left) (if isAbsolute target then [] else dir) l' e) :
      Resolves fs (n + 1) ss l l' e

lemma resolveFrom_eq_ok_iff {n : Nat} {ss : List String} {l l' : Location} {e : Entry} :
    fs.resolveFrom n ss l = .ok (l', e) ↔ fs.Resolves n ss l l' e := by
  constructor
  · intro h
    induction n generalizing ss l with
    | zero =>
      unfold resolveFrom at h
      split at h
      · cases h
      · rename_i hfollow
        cases h
        exact .found hfollow
      · cases h
    | succ n ih =>
      unfold resolveFrom at h
      split at h
      · cases h
      · rename_i hfollow
        cases h
        exact .found hfollow
      · rename_i target dir left hfollow
        simp only at h
        split at h
        · cases h
        · rename_i hne
          exact .link hfollow (by simpa using hne) (ih h)
  · intro h
    induction h with
    | found hfollow =>
      unfold resolveFrom
      rw [hfollow]
    | link hfollow hne _ ih =>
      unfold resolveFrom
      simp only [hfollow, beq_iff_eq, hne, if_false, ih]

/-- A path is resolved along its segments, if it is not too long. -/
lemma resolve_eq_ok_iff {path : String} {l : Location} {e : Entry} :
    fs.resolve path = .ok (l, e) ↔ path ≠ "" ∧ path.utf8ByteSize ≤ maxPath ∧
      fs.Resolves maxLinks (segments path) (if isAbsolute path then [] else fs.workDir) l e := by
  rw [resolve, ← resolveFrom_eq_ok_iff]
  by_cases hempty : path = ""
  · simp [hempty]
  by_cases hlong : maxPath < path.utf8ByteSize
  · simp [hempty, hlong, Nat.not_le.2 hlong]
  · simp [hempty, hlong, Nat.not_lt.1 hlong]

/-! ### Segments behind others -/

/-- Segments are followed one after the other, up to the first link. -/
lemma follow_append (fs : FileSystem) (ss rest : List String) (l : Location) (e : Entry) :
    fs.follow (ss ++ rest) l e =
      match fs.follow ss l e with
      | .error fault => .error fault
      | .ok (.found l e) => fs.follow rest l e
      | .ok (.link target dir left) => .ok (.link target dir (left ++ rest)) := by
  induction ss generalizing l e with
  | nil => rfl
  | cons s ss ih =>
    rw [List.cons_append, follow, follow]
    split_ifs
    · rfl
    · exact ih l e
    · exact ih l.dropLast .dir
    · rfl
    · cases fs.at? (l ++ [s]) with
      | none => rfl
      | some e' =>
        cases e' with
        | link target => rfl
        | file text => exact ih _ _
        | dir => exact ih _ _

/-- Segments behind others are followed from where these lead to, if there is no link on the way. -/
lemma Resolves.follow_eq_of_append {n : Nat} {ss rest : List String} {l l₁ l₂ : Location}
    {e₁ e₂ : Entry} (h₁ : fs.Resolves n ss l l₁ e₁) (h₂ : fs.Resolves n (ss ++ rest) l l₂ e₂)
    (hrest : ∀ target dir left, fs.follow rest l₁ e₁ ≠ .ok (.link target dir left)) :
    fs.follow rest l₁ e₁ = .ok (.found l₂ e₂) := by
  induction h₁ with
  | @found n ss l l₁ e₁ hfollow =>
    have happend := fs.follow_append ss rest l .dir
    rw [hfollow] at happend
    cases h₂ with
    | found hfound => exact happend.symm.trans hfound
    | link hlink => exact absurd (happend.symm.trans hlink) (hrest _ _ _)
  | @link n ss left l l₁ dir e₁ target hfollow hne _ ih =>
    have happend := fs.follow_append ss rest l .dir
    rw [hfollow] at happend
    cases h₂ with
    | found hfound => cases happend.symm.trans hfound
    | link hlink hne' hrest' =>
      cases happend.symm.trans hlink
      rw [← List.append_assoc] at hrest'
      exact ih hrest' hrest

lemma Resolves.append {n : Nat} {ss rest : List String} {l l₁ l₂ : Location} {e₁ e₂ : Entry}
    (h : fs.Resolves n ss l l₁ e₁) (hrest : fs.follow rest l₁ e₁ = .ok (.found l₂ e₂)) :
    fs.Resolves n (ss ++ rest) l l₂ e₂ := by
  induction h with
  | found hfollow =>
    refine .found ?_
    rw [follow_append, hfollow]
    exact hrest
  | link hfollow hne _ ih =>
    refine .link (by rw [follow_append, hfollow]) hne ?_
    rw [← List.append_assoc]
    exact ih hrest

/-- Where segments lead somewhere, the first of them do as well. -/
lemma Resolves.exists_of_append {n : Nat} {ss rest : List String} {l l₂ : Location} {e₂ : Entry}
    (h : fs.Resolves n (ss ++ rest) l l₂ e₂) :
    ∃ l₁ e₁ stop, fs.Resolves n ss l l₁ e₁ ∧ fs.follow rest l₁ e₁ = .ok stop := by
  generalize hseg : ss ++ rest = all at h
  induction h generalizing ss with
  | @found n all l l₂ e₂ hfollow =>
    subst hseg
    rw [follow_append] at hfollow
    split at hfollow
    · cases hfollow
    · rename_i hss
      exact ⟨_, _, _, .found hss, hfollow⟩
    · cases hfollow
  | @link n all left l l₂ dir e₂ target hfollow hne _ ih =>
    subst hseg
    rw [follow_append] at hfollow
    split at hfollow
    · cases hfollow
    · rename_i hss
      exact ⟨_, _, _, .found hss, hfollow⟩
    · rename_i hss
      cases hfollow
      obtain ⟨l₁, e₁, stop, h₁, hrest⟩ := ih (List.append_assoc ..)
      exact ⟨l₁, e₁, stop, .link hss hne h₁, hrest⟩

/-! ### Segments and names -/

/-- Something can be followed from a directory only. -/
lemma eq_dir_of_follow_cons {s : String} {ss : List String} {l : Location} {e : Entry} {stop : Stop}
    (h : fs.follow (s :: ss) l e = .ok stop) : e = .dir := by
  rw [follow] at h
  split at h
  · cases h
  · rename_i hdir
    simpa using hdir

lemma follow_empty {l : Location} {e : Entry} {stop : Stop} (h : fs.follow [""] l e = .ok stop) :
    stop = .found l e := by
  obtain rfl := eq_dir_of_follow_cons h
  cases h
  rfl

/-- A name is followed to what a directory has under it, if the name is not too long. -/
lemma follow_name_eq_ok_iff {name : String} (hname : IsFileName name) {l : Location}
    (hlink : ∀ target, fs.at? (l ++ [name]) ≠ some (.link target)) {stop : Stop} :
    fs.follow [name] l .dir = .ok stop ↔ name.utf8ByteSize ≤ maxName ∧
      ∃ e, fs.at? (l ++ [name]) = some e ∧ stop = .found (l ++ [name]) e := by
  rw [follow, if_neg (by decide), if_neg (by simp [hname.isName]),
    if_neg (by simp [hname.ne_parent])]
  by_cases hlong : maxName < name.utf8ByteSize
  · simp [hlong, Nat.not_le.2 hlong]
  rw [if_neg hlong, and_iff_right (Nat.not_lt.1 hlong)]
  cases hat : fs.at? (l ++ [name]) with
  | none => simp
  | some e =>
    cases e with
    | link target => exact absurd hat (hlink target)
    | file text => simp [follow, eq_comm]
    | dir => simp [follow, eq_comm]

/-! ### Names joined to a path -/

section Join

variable {dir : String} {l : Location}

/-- Where a path leads to, its segments without an empty one at the end lead to. -/
lemma resolves_openSegments {e : Entry} (h : fs.resolve dir = .ok (l, e)) :
    dir ≠ "" ∧ dir.utf8ByteSize ≤ maxPath ∧
      fs.Resolves maxLinks (openSegments dir) (if isAbsolute dir then [] else fs.workDir) l e := by
  obtain ⟨hne, hsize, hresolves⟩ := resolve_eq_ok_iff.1 h
  refine ⟨hne, hsize, ?_⟩
  rcases segments_eq dir with hsegments | ⟨hsegments, -⟩
  · rw [hsegments] at hresolves
    obtain ⟨l₁, e₁, stop, hopen, hempty⟩ := hresolves.exists_of_append
    obtain rfl := follow_empty hempty
    have hend := hopen.follow_eq_of_append hresolves fun target dir left hlink => by
      cases hempty.symm.trans hlink
    cases hempty.symm.trans hend
    exact hopen
  · rwa [hsegments] at hresolves

/-- For a directory it makes no difference whether the path ends with a slash. -/
lemma resolve_eq_dir_iff : fs.resolve dir = .ok (l, .dir) ↔
    dir ≠ "" ∧ dir.utf8ByteSize ≤ maxPath ∧
      fs.Resolves maxLinks (openSegments dir) (if isAbsolute dir then [] else fs.workDir) l
        .dir := by
  refine ⟨resolves_openSegments, fun ⟨hne, hsize, hopen⟩ =>
    resolve_eq_ok_iff.2 ⟨hne, hsize, ?_⟩⟩
  rcases segments_eq dir with hsegments | ⟨hsegments, -⟩
  · rw [hsegments]
    exact hopen.append rfl
  · rwa [hsegments]

/-- A path that something is found below leads to a directory. -/
lemma exists_resolve_of_joinAll (hdir : dir ≠ "") {names : List String}
    (h : ∀ name ∈ names, IsFileName name) (hne : names ≠ []) {x : Location × Entry}
    (hx : fs.resolve (joinAll dir names) = .ok x) : ∃ l, fs.resolve dir = .ok (l, .dir) := by
  obtain ⟨-, hsize, hresolves⟩ := resolve_eq_ok_iff.1 hx
  rw [segments_joinAll dir h hne, isAbsolute_joinAll hdir h] at hresolves
  obtain ⟨l, e, stop, hopen, hrest⟩ := hresolves.exists_of_append
  have hle := size_le_joinAll dir h
  obtain ⟨name, rest, rfl⟩ := List.exists_cons_of_ne_nil hne
  obtain rfl := eq_dir_of_follow_cons hrest
  exact ⟨l, resolve_eq_dir_iff.2 ⟨hdir, by omega, hopen⟩⟩

/-- A name joined to the path of a directory leads to what the directory has under it, if that is no
link. -/
lemma resolve_join_eq_ok_iff (hdir : fs.resolve dir = .ok (l, .dir)) {name : String}
    (hname : IsFileName name) (hshort : (join dir name).utf8ByteSize ≤ maxPath)
    (hlink : ∀ target, fs.at? (l ++ [name]) ≠ some (.link target)) {l' : Location} {e : Entry} :
    fs.resolve (join dir name) = .ok (l', e) ↔
      name.utf8ByteSize ≤ maxName ∧ l' = l ++ [name] ∧ fs.at? (l ++ [name]) = some e := by
  obtain ⟨hne, -, hopen⟩ := resolves_openSegments hdir
  have hnames : ∀ n ∈ [name], IsFileName n := by simpa using hname
  have hfollow : ∀ {stop}, fs.follow [name] l .dir = .ok stop ↔ name.utf8ByteSize ≤ maxName ∧
      ∃ e, fs.at? (l ++ [name]) = some e ∧ stop = .found (l ++ [name]) e :=
    follow_name_eq_ok_iff hname hlink
  have hsegments := segments_joinAll dir hnames (List.cons_ne_nil _ _)
  have habsolute := isAbsolute_joinAll hne hnames
  rw [joinAll_cons, joinAll_nil] at hsegments habsolute
  rw [resolve_eq_ok_iff, hsegments, habsolute, and_iff_right (join_ne_empty hname),
    and_iff_right hshort]
  constructor
  · intro hresolves
    have hend := hopen.follow_eq_of_append hresolves fun target up left hstop => by
      obtain ⟨-, e', -, h⟩ := hfollow.1 hstop
      cases h
    obtain ⟨hsize, e', hat, h⟩ := hfollow.1 hend
    cases h
    exact ⟨hsize, rfl, hat⟩
  · rintro ⟨hsize, rfl, hat⟩
    exact hopen.append (hfollow.2 ⟨hsize, e, hat, rfl⟩)

end Join

end ShardCheck.FileSystem
