import Mathlib.Tactic.Common
import ShardCheck.Path

/-!
# Names joined to a base

A file name that is joined to a path becomes its last component, however the path is spelled. Taking
the path off again gives back exactly the names that were joined to it.
-/

namespace ShardCheck.Path

/-! ### File names -/

/-- The text is the name of an entry of a directory. -/
structure IsFileName (name : String) : Prop where
  ne_empty : name ≠ ""
  ne_current : name ≠ "."
  ne_parent : name ≠ ".."
  no_slash : '/' ∉ name.toList

instance (name : String) : Decidable (IsFileName name) :=
  decidable_of_iff (name ≠ "" ∧ name ≠ "." ∧ name ≠ ".." ∧ '/' ∉ name.toList)
    ⟨fun ⟨h₁, h₂, h₃, h₄⟩ => ⟨h₁, h₂, h₃, h₄⟩, fun ⟨h₁, h₂, h₃, h₄⟩ => ⟨h₁, h₂, h₃, h₄⟩⟩

/-- A path with names joined to it, one after the other. -/
def joinAll (base : String) (names : List String) : String := names.foldl join base

@[simp] lemma joinAll_nil (base : String) : joinAll base [] = base := rfl

@[simp] lemma joinAll_cons (base name : String) (names : List String) :
    joinAll base (name :: names) = joinAll (join base name) names := rfl

lemma joinAll_append (base : String) (names names' : List String) :
    joinAll base (names ++ names') = joinAll (joinAll base names) names' :=
  List.foldl_append

namespace IsFileName

variable {name : String}

lemma isName (h : IsFileName name) : isName name = true := by
  simp [Path.isName, h.ne_empty, h.ne_current]

lemma ofSegment (h : IsFileName name) : Component.ofSegment name = .normal name := by
  simp [Component.ofSegment, h.ne_parent]

lemma exists_getLast? (h : IsFileName name) :
    ∃ c, name.toList.getLast? = some c ∧ c ≠ '/' := by
  have hne : name.toList ≠ [] := fun hnil => h.ne_empty (String.toList_inj.1 hnil)
  refine ⟨name.toList.getLast hne, List.getLast?_eq_some_getLast hne, fun hslash => ?_⟩
  exact h.no_slash (hslash ▸ List.getLast_mem hne)

lemma isAbsolute (h : IsFileName name) : isAbsolute name = false := by
  cases hs : name.toList with
  | nil => simp [Path.isAbsolute, hs]
  | cons c cs =>
    have hc : c ≠ '/' := fun hslash => h.no_slash (by simp [hs, hslash])
    simpa [Path.isAbsolute, hs] using hc

end IsFileName

/-! ### Segments -/

lemma segmentsOf_of_notMem {s : List Char} (h : '/' ∉ s) : segmentsOf s = [s] := by
  induction s with
  | nil => rfl
  | cons c s ih =>
    have hc : c ≠ '/' := fun hslash => h (by simp [hslash])
    have hs : '/' ∉ s := fun hs => h (List.mem_cons_of_mem _ hs)
    simp [segmentsOf, hc, ih hs]

lemma segmentsOf_append_slash (s t : List Char) :
    segmentsOf (s ++ '/' :: t) = segmentsOf s ++ segmentsOf t := by
  induction s with
  | nil => simp [segmentsOf]
  | cons c s ih =>
    rw [List.cons_append, segmentsOf, segmentsOf, ih]
    split
    · rfl
    · cases hs : segmentsOf s with
      | nil => exact absurd hs (segmentsOf_ne_nil s)
      | cons u us => rfl

lemma segments_append_slash (s t : String) :
    segments (s ++ "/" ++ t) = segments s ++ segments t := by
  have hlist : (s ++ "/" ++ t).toList = s.toList ++ '/' :: t.toList := by
    simp [String.toList_append]
  rw [segments, hlist, segmentsOf_append_slash, List.map_append]
  rfl

lemma segments_of_isFileName {name : String} (h : IsFileName name) : segments name = [name] := by
  rw [segments, segmentsOf_of_notMem h.no_slash]
  simp

lemma segments_append_slash_end (s : String) : segments (s ++ "/") = segments s ++ [""] := by
  have h := segments_append_slash s ""
  rwa [String.append_empty] at h

/-- The segments that stand before a name joined to a path. -/
def openSegments (base : String) : List String :=
  if base == "" || base.toList.getLast? == some '/' then (segments base).dropLast
  else segments base

/-- A path is empty, or ends with a slash, or is closed by its last segment. -/
lemma openSegments_cases (base : String) :
    base = "" ∧ openSegments base = [] ∨
      (∃ s, base = s ++ "/" ∧ openSegments base = segments s) ∨
        base ≠ "" ∧ base.toList.getLast? ≠ some '/' ∧ openSegments base = segments base := by
  by_cases hempty : base = ""
  · exact .inl ⟨hempty, by rw [hempty]; rfl⟩
  by_cases hslash : base.toList.getLast? = some '/'
  · obtain ⟨s, hs⟩ := List.getLast?_eq_some_iff.1 hslash
    have hbase : base = String.ofList s ++ "/" := by
      rw [← String.toList_inj, hs]
      simp [String.toList_append]
    refine .inr (.inl ⟨String.ofList s, hbase, ?_⟩)
    rw [openSegments, if_pos (by simp [hslash]), hbase, segments_append_slash_end,
      List.dropLast_concat]
  · exact .inr (.inr ⟨hempty, hslash, by simp [openSegments, hempty, hslash]⟩)

/-- Nothing follows the open segments of a path, or only an empty segment. -/
lemma segments_eq (base : String) :
    segments base = openSegments base ++ [""] ∨
      segments base = openSegments base ∧ openSegments base ≠ [""] := by
  rcases openSegments_cases base with ⟨rfl, hopen⟩ | ⟨s, rfl, hopen⟩ | ⟨hne, -, hopen⟩
  · exact .inl (by rw [hopen]; rfl)
  · exact .inl (by rw [hopen, segments_append_slash_end])
  · refine .inr ⟨hopen.symm, fun hone => hne ?_⟩
    -- a path of a single empty segment is empty
    have hjoin := joinSegments_segmentsOf base.toList
    rw [hopen, segments, List.map_eq_singleton_iff] at hone
    obtain ⟨s, hs, hempty⟩ := hone
    rw [hs, joinSegments] at hjoin
    rw [← hempty, hjoin, String.ofList_toList]

section Join

variable {base name : String} (h : IsFileName name)

include h

lemma segments_join : segments (join base name) = openSegments base ++ [name] := by
  have hname := segments_of_isFileName h
  rcases openSegments_cases base with ⟨rfl, hopen⟩ | ⟨s, rfl, hopen⟩ | ⟨hne, hslash, hopen⟩
  · rw [hopen, List.nil_append, ← hname]
    simp [join, h.isAbsolute]
  · rw [hopen, ← hname, ← segments_append_slash]
    simp [join, h.isAbsolute, String.toList_append]
  · rw [hopen, ← hname, ← segments_append_slash]
    simp [join, h.isAbsolute, hne, hslash]

/-- A path that ends with a file name takes a slash before the next segment. -/
lemma not_open_join :
    (join base name == "" || (join base name).toList.getLast? == some '/') = false := by
  obtain ⟨c, hc, hslash⟩ := h.exists_getLast?
  have hlast : (join base name).toList.getLast? = some c := by
    rw [join, h.isAbsolute]
    simp only [Bool.false_eq_true, if_false]
    split <;> simp [String.toList_append, List.getLast?_append, List.getLast?_cons, hc]
  have hne : join base name ≠ "" := by
    intro hempty
    simp [hempty] at hlast
  simp [hne, hlast, hslash]

lemma join_ne_empty : join base name ≠ "" := by
  have hopen : (join base name == "" || (join base name).toList.getLast? == some '/') = false :=
    not_open_join h
  intro hempty
  simp [hempty] at hopen

lemma openSegments_join : openSegments (join base name) = openSegments base ++ [name] := by
  rw [openSegments, not_open_join h, segments_join h]
  rfl

lemma join_append_slash {rest : String} (hrest : isAbsolute rest = false) :
    join base (name ++ "/" ++ rest) = join (join base name) rest := by
  have habsolute : isAbsolute (name ++ "/" ++ rest) = false := by
    obtain ⟨c, cs, hcs⟩ := List.exists_cons_of_ne_nil fun hnil =>
      h.ne_empty (String.toList_inj.1 hnil)
    have hname := h.isAbsolute
    rw [isAbsolute, hcs] at hname
    rw [isAbsolute, String.toList_append, String.toList_append, hcs]
    exact hname
  have hjoin : join (join base name) rest = join base name ++ "/" ++ rest := by
    rw [join, hrest, not_open_join h]
    rfl
  rw [hjoin, join, join, habsolute, h.isAbsolute]
  simp only [Bool.false_eq_true, if_false]
  split <;> simp only [String.append_assoc]

/-- A joined name adds its bytes to those of the path, and at most a slash besides. -/
lemma size_join : base.utf8ByteSize + name.utf8ByteSize ≤ (join base name).utf8ByteSize := by
  rw [join, h.isAbsolute]
  simp only [Bool.false_eq_true, if_false]
  split <;> simp only [String.utf8ByteSize_append] <;> omega

end Join

/-- Joined names add their bytes to those of the path. -/
lemma size_joinAll (base : String) {names : List String} (h : ∀ name ∈ names, IsFileName name)
    {size : Nat} (hsize : ∀ name ∈ names, size ≤ name.utf8ByteSize) :
    base.utf8ByteSize + names.length * size ≤ (joinAll base names).utf8ByteSize := by
  induction names generalizing base with
  | nil => simp
  | cons name names ih =>
    obtain ⟨hname, hnames⟩ := List.forall_mem_cons.1 h
    obtain ⟨hfirst, hrest⟩ := List.forall_mem_cons.1 hsize
    have hjoin : base.utf8ByteSize + name.utf8ByteSize ≤ (join base name).utf8ByteSize :=
      size_join hname
    have hjoinAll := ih (join base name) hnames hrest
    rw [joinAll_cons, List.length_cons, Nat.succ_mul]
    omega

lemma size_le_joinAll (base : String) {names : List String}
    (h : ∀ name ∈ names, IsFileName name) :
    base.utf8ByteSize ≤ (joinAll base names).utf8ByteSize := by
  simpa using size_joinAll base h fun name _ => Nat.zero_le name.utf8ByteSize

lemma segments_joinAll (base : String) {names : List String}
    (h : ∀ name ∈ names, IsFileName name) (hne : names ≠ []) :
    segments (joinAll base names) = openSegments base ++ names := by
  induction names generalizing base with
  | nil => exact absurd rfl hne
  | cons name names ih =>
    have hname := h name List.mem_cons_self
    have hnames : ∀ name ∈ names, IsFileName name := fun n hn => h n (List.mem_cons_of_mem _ hn)
    rw [joinAll_cons]
    cases names with
    | nil => exact segments_join hname
    | cons name' names =>
      rw [ih _ hnames (by simp), openSegments_join hname]
      simp

/-- A path that is not empty starts as before when names are joined to it. -/
lemma isAbsolute_joinAll {base : String} (hbase : base ≠ "") {names : List String}
    (h : ∀ name ∈ names, IsFileName name) : isAbsolute (joinAll base names) = isAbsolute base := by
  induction names generalizing base with
  | nil => rfl
  | cons name names ih =>
    have hname := h name List.mem_cons_self
    obtain ⟨c, cs, hcs⟩ := List.exists_cons_of_ne_nil fun hnil =>
      hbase (String.toList_inj.1 hnil)
    have hjoin : isAbsolute (join base name) = isAbsolute base := by
      rw [join, hname.isAbsolute]
      simp only [Bool.false_eq_true, if_false]
      split <;> simp [isAbsolute, String.toList_append, hcs]
    rw [joinAll_cons, ih (join_ne_empty hname) fun n hn => h n (List.mem_cons_of_mem _ hn), hjoin]

/-! ### Components -/

/-- The component at the start of a list of segments, and the segments after it. -/
def startOf : List String → Option Component × List String
  | s :: ss =>
    if s == "" && !ss.isEmpty then (some .root, ss)
    else if s == "." then (some .current, ss)
    else (none, s :: ss)
  | [] => (none, [])

lemma start_eq (p : String) : start p = startOf (segments p) := by
  unfold start startOf
  rfl

lemma startOf_of_isFileName {name : String} (h : IsFileName name) (ss : List String) :
    startOf (name :: ss) = (none, name :: ss) := by
  simp [startOf, h.ne_empty, h.ne_current]

lemma startOf_append {ss rest names : List String} (h : ∀ name ∈ names, IsFileName name)
    (hne : names ≠ []) (hrest : rest = [""] ∨ rest = [] ∧ ss ≠ [""]) :
    ∃ first ss', startOf (ss ++ rest) = (first, ss' ++ rest) ∧
      startOf (ss ++ names) = (first, ss' ++ names) ∧
      (first = none → ∀ s ∈ ss'.head?, isName s = true) := by
  cases ss with
  | nil =>
    obtain ⟨name, names, rfl⟩ := List.exists_cons_of_ne_nil hne
    refine ⟨none, [], ?_, startOf_of_isFileName (h name List.mem_cons_self) names, by simp⟩
    rcases hrest with rfl | ⟨rfl, -⟩ <;> rfl
  | cons s ss =>
    by_cases hempty : s = ""
    · subst hempty
      refine ⟨some .root, ss, ?_, ?_, by simp⟩
      · rcases hrest with rfl | ⟨rfl, hss⟩ <;> simp_all [startOf]
      · simp [startOf, hne]
    · by_cases hcurrent : s = "."
      · exact ⟨some .current, ss, by simp [startOf, hcurrent], by simp [startOf, hcurrent],
          by simp⟩
      · refine ⟨none, s :: ss, by simp [startOf, hempty, hcurrent],
          by simp [startOf, hempty, hcurrent], fun _ t ht => ?_⟩
        cases ht
        simp [isName, hempty, hcurrent]

section Joined

variable (base : String) {names : List String} (h : ∀ name ∈ names, IsFileName name)

include h

lemma filter_isName : names.filter isName = names :=
  List.filter_eq_self.2 fun name hname => (h name hname).isName

lemma trimEnd_eq_self : trimEnd names = names := by
  unfold trimEnd
  cases hrev : names.reverse with
  | nil => simpa using hrev
  | cons name rest =>
    have hname : isName name = true :=
      (h name (List.mem_reverse.1 (by simp [hrev]))).isName
    rw [List.dropWhile_cons_of_neg (by simp [hname]), ← hrev, List.reverse_reverse]

lemma dropNames_append (hne : names ≠ []) (ss : List String) :
    dropNames (ss.filter isName).length (ss ++ names) = names := by
  have hnames : names.dropWhile (!isName ·) = names := by
    obtain ⟨name, rest, rfl⟩ := List.exists_cons_of_ne_nil hne
    exact List.dropWhile_cons_of_neg (by simp [(h name List.mem_cons_self).isName])
  induction ss with
  | nil => simpa [dropNames] using hnames
  | cons s ss ih =>
    by_cases hs : isName s = true
    · rw [List.filter_cons_of_pos hs, List.length_cons, List.cons_append, dropNames, if_pos hs]
      exact ih
    · rw [List.filter_cons_of_neg hs, List.cons_append]
      cases hk : (ss.filter isName).length with
      | zero =>
        rw [hk, dropNames] at ih
        rw [dropNames, List.dropWhile_cons_of_pos (by simp [hs])]
        exact ih
      | succ k =>
        rw [hk] at ih
        rw [dropNames, if_neg hs]
        exact ih

/-- The start of a path with names joined to it is the start of the path, with the names in place of
nameless segments at its end. -/
lemma exists_start (hne : names ≠ []) :
    ∃ first ss rest, rest.filter isName = [] ∧ start base = (first, ss ++ rest) ∧
      start (joinAll base names) = (first, ss ++ names) ∧
      (first = none → ∀ s ∈ ss.head?, isName s = true) := by
  obtain ⟨rest, hsegments, hrest⟩ : ∃ rest, segments base = openSegments base ++ rest ∧
      (rest = [""] ∨ rest = [] ∧ openSegments base ≠ [""]) := by
    rcases segments_eq base with hs | ⟨hs, hopen⟩
    · exact ⟨[""], hs, .inl rfl⟩
    · exact ⟨[], by simpa using hs, .inr ⟨rfl, hopen⟩⟩
  obtain ⟨first, ss, hbase, hjoined, hnone⟩ := startOf_append h hne hrest
  refine ⟨first, ss, rest, ?_, ?_, ?_, hnone⟩
  · rcases hrest with rfl | ⟨rfl, -⟩ <;> rfl
  · rw [start_eq, hsegments, hbase]
  · rw [start_eq, segments_joinAll base h hne, hjoined]

/-- Names that are joined to a path are its last components. -/
lemma components_joinAll :
    components (joinAll base names) = components base ++ names.map .normal := by
  rcases eq_or_ne names [] with rfl | hne
  · simp
  obtain ⟨first, ss, rest, hrest, hbase, hjoined, -⟩ := exists_start base h hne
  have hmap : names.map Component.ofSegment = names.map .normal :=
    List.map_congr_left fun name hname => (h name hname).ofSegment
  rw [components, components, hbase, hjoined]
  simp only [List.filter_append, filter_isName h, hrest, List.append_nil, List.map_append, hmap,
    List.append_assoc]

/-- A path taken off the names that were joined to it leaves these names. -/
lemma strip?_joinAll (hne : names ≠ []) :
    strip? base (joinAll base names) = some (ofSegments names) := by
  have hprefix : (components base).isPrefixOf (components (joinAll base names)) = true := by
    rw [components_joinAll base h, List.isPrefixOf_iff_prefix]
    exact List.prefix_append _ _
  obtain ⟨first, ss, rest, hrest, hbase, hjoined, hnone⟩ := exists_start base h hne
  have hlength : (components base).length =
      first.toList.length + (ss.filter isName).length := by
    rw [components, hbase]
    simp [List.filter_append, hrest]
  have hdrop := dropNames_append h hne ss
  rw [strip?, if_pos hprefix, hlength, dropComponents, hjoined]
  congr 1
  cases first with
  | some c =>
    rw [Option.toList_some, List.length_singleton, Nat.add_comm]
    simp only [hdrop, trimEnd_eq_self h]
  | none =>
    rw [Option.toList_none, List.length_nil, Nat.zero_add]
    cases hk : (ss.filter isName).length with
    | zero =>
      -- the first segment of such a path has a name, so there is none
      have hss : ss = [] := by
        cases ss with
        | nil => rfl
        | cons s ss =>
          rw [List.filter_cons_of_pos (hnone rfl s rfl)] at hk
          cases hk
      simp only [hss, List.nil_append, trimEnd_eq_self h]
    | succ k =>
      rw [hk] at hdrop
      simp only [hdrop, trimEnd_eq_self h]

/-- Different names lead to different paths. -/
lemma joinAll_injective {names' : List String} (h' : ∀ name ∈ names', IsFileName name)
    (heq : joinAll base names = joinAll base names') : names = names' := by
  have hcomponents := congrArg components heq
  rw [components_joinAll base h, components_joinAll base h'] at hcomponents
  have hmap := List.append_cancel_left hcomponents
  exact (List.map_inj_right fun _ _ hname => Component.normal.inj hname).1 hmap

lemma fileName?_joinAll (hne : names ≠ []) :
    fileName? (joinAll base names) = names.getLast? := by
  rw [fileName?, components_joinAll base h, List.getLast?_append, List.getLast?_map,
    List.getLast?_eq_some_getLast hne]
  rfl

omit base h in
lemma ofSegments_singleton (name : String) : ofSegments [name] = name := by
  simp [ofSegments, joinSegments]

omit base h in
lemma ofSegments_cons_cons (name name' : String) (names : List String) :
    ofSegments (name :: name' :: names) = name ++ "/" ++ ofSegments (name' :: names) := by
  rw [← String.toList_inj]
  simp [ofSegments, joinSegments, String.toList_append]

omit base in
lemma isAbsolute_ofSegments : isAbsolute (ofSegments names) = false := by
  cases names with
  | nil => rfl
  | cons name names =>
    have hname := (h name List.mem_cons_self).isAbsolute
    obtain ⟨c, hc, -⟩ := (h name List.mem_cons_self).exists_getLast?
    cases names with
    | nil => rwa [ofSegments_singleton]
    | cons name' names =>
      rw [ofSegments_cons_cons, isAbsolute, String.toList_append, String.toList_append,
        List.append_assoc, List.head?_append]
      rw [isAbsolute] at hname
      cases hcs : name.toList with
      | nil => simp [hcs] at hc
      | cons d ds => simpa [hcs] using hname

/-- Joining the way as one path is joining its names one by one. -/
lemma join_ofSegments (hne : names ≠ []) : join base (ofSegments names) = joinAll base names := by
  induction names generalizing base with
  | nil => exact absurd rfl hne
  | cons name names ih =>
    have hnames : ∀ name ∈ names, IsFileName name := fun n hn => h n (List.mem_cons_of_mem _ hn)
    cases names with
    | nil => rw [ofSegments_singleton]; rfl
    | cons name' names =>
      rw [ofSegments_cons_cons, join_append_slash (h name List.mem_cons_self)
        (isAbsolute_ofSegments hnames), ih _ hnames (List.cons_ne_nil _ _)]
      rfl

omit base in
lemma segments_ofSegments (hne : names ≠ []) : segments (ofSegments names) = names := by
  induction names with
  | nil => exact absurd rfl hne
  | cons name names ih =>
    have hname := segments_of_isFileName (h name List.mem_cons_self)
    cases names with
    | nil => simpa [ofSegments, joinSegments] using hname
    | cons name' names =>
      rw [ofSegments_cons_cons, segments_append_slash, hname,
        ih (fun n hn => h n (List.mem_cons_of_mem _ hn)) (by simp)]
      rfl

omit base in
lemma names_ofSegments (hne : names ≠ []) : Path.names (ofSegments names) = names := by
  obtain ⟨name, rest, rfl⟩ := List.exists_cons_of_ne_nil hne
  have hmap : (name :: rest).map Component.ofSegment = (name :: rest).map .normal :=
    List.map_congr_left fun name hname => (h name hname).ofSegment
  rw [Path.names, components, start_eq, segments_ofSegments h hne,
    startOf_of_isFileName (h name List.mem_cons_self)]
  simp only [Option.toList_none, List.nil_append, filter_isName h, hmap, List.filterMap_map]
  exact List.filterMap_some

end Joined

end ShardCheck.Path
