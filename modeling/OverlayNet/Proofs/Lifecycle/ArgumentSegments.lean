import Mathlib
import OverlayNet.Lifecycle

set_option autoImplicit false

/-! # The segments of an argument text

An argument text assigns values to keys, one assignment in each segment between semicolons. Texts
that are joined by a semicolon have their assignments one behind the other, and what a key is
assigned last is what it stands for. So every entry that is read can be traced to the segment that
it comes from. -/

namespace OverlayNet

namespace Text

/-- A part between separators holds none, and nothing that the text does not hold. -/
theorem of_mem_splitOn {separator : Char} {text part : List Char}
    (member : part ∈ text.splitOn separator) : separator ∉ part ∧ part ⊆ text := by
  induction text generalizing part with
  | nil =>
      obtain rfl : part = [] := by simpa using member
      simp
  | cons character rest ih =>
      obtain ⟨first, others, split⟩ :=
        List.exists_cons_of_ne_nil (List.splitOn_ne_nil separator rest)
      rw [List.splitOn_cons_eq_if_modifyHead, split] at member
      rw [split] at ih
      split at member
      case isTrue same =>
        rcases List.mem_cons.mp member with rfl | behind
        · simp
        · obtain ⟨plain, inside⟩ := ih behind
          exact ⟨plain, List.subset_cons_of_subset _ inside⟩
      case isFalse other =>
        rcases List.mem_cons.mp member with rfl | behind
        · obtain ⟨plain, inside⟩ := ih List.mem_cons_self
          have apart : separator ≠ character := by
            rintro rfl
            simp at other
          exact ⟨by simp [plain, apart], List.cons_subset_cons _ inside⟩
        · obtain ⟨plain, inside⟩ := ih (List.mem_cons_of_mem _ behind)
          exact ⟨plain, List.subset_cons_of_subset _ inside⟩

end Text

namespace Arguments

/-- The segment that assigns a value to a key. -/
def assignment (pair : String × String) : String :=
  pair.1 ++ "=" ++ pair.2

/-- Whether a key and a value can be told apart in a segment, and the segment from its neighbours.
-/
structure Assignable (pair : String × String) : Prop where
  key : ';' ∉ pair.1.toList ∧ '=' ∉ pair.1.toList
  value : ';' ∉ pair.2.toList

/-- The assignments in a text, in their order. -/
def assignments (text : String) : List (String × String) :=
  (text.toList.splitOn ';').filterMap pair?

section Inserting

variable {arguments : Arguments} {key value : String}

private theorem lookup_insert (arguments : Arguments) (key value other : String) :
    (insert arguments key value).lookup other =
      if other = key then some value else arguments.lookup other := by
  by_cases same : other = key
  · simp [insert, same]
  · have kept : (arguments.filter (·.1 ≠ key)).lookup other = arguments.lookup other := by
      induction arguments with
      | nil => rfl
      | cons first rest ih =>
          obtain ⟨firstKey, firstValue⟩ := first
          by_cases replaced : firstKey = key
          · have apart : (other == firstKey) = false := by simpa [replaced] using same
            rw [List.filter_cons_of_neg (by simpa using replaced), ih, List.lookup_cons, apart]
          · rw [List.filter_cons_of_pos (by simpa using replaced), List.lookup_cons,
              List.lookup_cons, ih]
    have apart : (other == key) = false := by simpa using same
    rw [insert, List.lookup_cons, apart, kept, if_neg same]

private theorem nodup_insert (once : (arguments.map Prod.fst).Nodup) (key value : String) :
    ((insert arguments key value).map Prod.fst).Nodup := by
  rw [insert, List.map_cons, List.nodup_cons]
  constructor
  · simp
  · exact once.sublist (List.filter_sublist.map Prod.fst)

/-- Where every key occurs once, what is looked up is what is there. -/
theorem lookup_eq_some_iff_mem (once : (arguments.map Prod.fst).Nodup) :
    arguments.lookup key = some value ↔ (key, value) ∈ arguments := by
  rw [List.lookup_eq_some_iff]
  constructor
  · rintro ⟨front, back, rfl, -⟩
    simp
  · intro member
    obtain ⟨front, back, rfl⟩ := List.append_of_mem member
    refine ⟨front, back, rfl, fun pair inside => ?_⟩
    rw [List.map_append, List.map_cons, List.nodup_append] at once
    have apart := once.2.2 pair.1 (List.mem_map_of_mem inside) key List.mem_cons_self
    simpa using apart.symm

end Inserting

/-- Of several assignments to a key the last one counts. -/
theorem lookup_foldl_insert (assigned : List (String × String)) (arguments : Arguments)
    (key : String) :
    (assigned.foldl (fun arguments (key, value) => insert arguments key value) arguments).lookup
        key = (assigned.reverse.lookup key).or (arguments.lookup key) := by
  induction assigned generalizing arguments with
  | nil => simp
  | cons first rest ih =>
      obtain ⟨firstKey, firstValue⟩ := first
      have inserted : (insert arguments firstKey firstValue).lookup key =
          ([(firstKey, firstValue)].lookup key).or (arguments.lookup key) := by
        rw [lookup_insert, List.lookup_cons]
        by_cases same : key = firstKey
        · simp [same]
        · have apart : (key == firstKey) = false := by simpa using same
          simp [same, apart]
      rw [List.foldl_cons, ih, inserted, List.reverse_cons, List.lookup_append, Option.or_assoc]

theorem lookup_ofText (text key : String) :
    (ofText text).lookup key = (assignments text).reverse.lookup key := by
  rw [ofText, lookup_foldl_insert]
  simp [assignments]

theorem nodup_ofText (text : String) : ((ofText text).map Prod.fst).Nodup := by
  have kept : ∀ (assigned : List (String × String)) (arguments : Arguments),
      (arguments.map Prod.fst).Nodup →
      ((assigned.foldl (fun arguments (key, value) => insert arguments key value)
        arguments).map Prod.fst).Nodup := by
    intro assigned
    induction assigned with
    | nil => exact fun _ once => once
    | cons first rest ih => exact fun _ once => ih _ (nodup_insert once first.1 first.2)
  exact kept _ [] List.nodup_nil

/-- An entry is an assignment behind which its key is not assigned again. -/
theorem mem_ofText_iff {text key value : String} :
    (key, value) ∈ ofText text ↔ ∃ earlier later,
      assignments text = earlier ++ (key, value) :: later ∧ ∀ pair ∈ later, pair.1 ≠ key := by
  rw [← lookup_eq_some_iff_mem (nodup_ofText text), lookup_ofText, List.lookup_eq_some_iff]
  constructor
  · rintro ⟨later, earlier, split, last⟩
    refine ⟨earlier.reverse, later.reverse, ?_, ?_⟩
    · rw [← List.reverse_inj, split]
      simp
    · intro pair member
      have apart := last pair (List.mem_reverse.mp member)
      exact (bne_iff_ne.mp apart).symm
  · rintro ⟨earlier, later, split, last⟩
    refine ⟨later.reverse, earlier.reverse, by simp [split], ?_⟩
    intro pair member
    exact bne_iff_ne.mpr (last pair (List.mem_reverse.mp member)).symm

section Segments

theorem pair?_eq_some_iff {segment : List Char} {key value : String} :
    pair? segment = some (key, value) ↔
      String.ofList segment = assignment (key, value) ∧ '=' ∉ key.toList := by
  have joined : String.ofList segment = assignment (key, value) ↔
      segment = key.toList ++ '=' :: value.toList := by
    rw [← String.toList_inj]
    simp [assignment]
  rw [joined, ← Text.cutFirst?_eq_some_iff, pair?, Option.map_eq_some_iff]
  constructor
  · rintro ⟨⟨before, after⟩, cut, same⟩
    obtain ⟨rfl, rfl⟩ := Prod.mk.inj same
    simpa using cut
  · intro cut
    exact ⟨_, cut, by simp⟩

theorem assignments_append (first second : String) :
    assignments (first ++ ";" ++ second) = assignments first ++ assignments second := by
  have split : (first ++ ";" ++ second).toList.splitOn ';' =
      first.toList.splitOn ';' ++ second.toList.splitOn ';' := by
    rw [String.append_assoc, String.toList_append, String.toList_append]
    exact List.splitOnP_append_cons first.toList second.toList rfl
  rw [assignments, split, List.filterMap_append, assignments, assignments]

theorem assignments_intercalate (parts : List String) :
    assignments (";".intercalate parts) = parts.flatMap assignments := by
  induction parts with
  | nil => rfl
  | cons first rest ih =>
      cases rest with
      | nil => simp
      | cons next rest =>
          rw [String.intercalate_cons_cons, assignments_append, ih, ← List.flatMap_cons]

theorem assignments_of_segment {segment : String} (plain : ';' ∉ segment.toList) :
    assignments segment = (pair? segment.toList).toList := by
  rw [assignments, List.splitOn_eq_singleton plain]
  cases read : pair? segment.toList <;> simp [read]

theorem assignments_assignment {pair : String × String} (assignable : Assignable pair) :
    assignments (assignment pair) = [pair] := by
  obtain ⟨⟨keyPlain, keyUncut⟩, valuePlain⟩ := assignable
  have plain : ';' ∉ (assignment pair).toList := by
    simp [assignment, keyPlain, valuePlain]
  have read : pair? (assignment pair).toList = some pair :=
    pair?_eq_some_iff.mpr ⟨String.ofList_toList, keyUncut⟩
  rw [assignments_of_segment plain, read, Option.toList_some]

theorem assignments_eq_nil {text : String} (unassigned : '=' ∉ text.toList) :
    assignments text = [] := by
  rw [assignments, List.filterMap_eq_nil_iff]
  intro segment member
  have uncut : '=' ∉ segment := fun inside => unassigned ((Text.of_mem_splitOn member).2 inside)
  rw [pair?, Text.cutFirst?_eq_none_iff.mpr uncut, Option.map_none]

/-- An entry comes from a segment that assigns it, behind which no segment assigns its key. -/
theorem mem_ofText_iff_segment {text key value : String} :
    (key, value) ∈ ofText text ↔ ∃ front back : List String,
      text = ";".intercalate (front ++ [assignment (key, value)] ++ back) ∧
      Assignable (key, value) ∧ (∀ segment ∈ front ++ back, ';' ∉ segment.toList) ∧
      ∀ other, assignment (key, other) ∉ back := by
  rw [mem_ofText_iff]
  constructor
  · rintro ⟨earlier, later, split, last⟩
    obtain ⟨front, rest, segments, -, restRead⟩ := List.filterMap_eq_append_iff.mp split
    obtain ⟨skipped, segment, back, rfl, -, read, behind⟩ := List.filterMap_eq_cons_iff.mp restRead
    obtain ⟨written, uncut⟩ := pair?_eq_some_iff.mp read
    have plain : ∀ part ∈ front ++ (skipped ++ segment :: back), ';' ∉ part := by
      intro part member
      rw [← segments] at member
      exact (Text.of_mem_splitOn member).1
    -- Behind the segment of the last assignment there may be others, but none of the same key.
    refine ⟨(front ++ skipped).map String.ofList, back.map String.ofList, ?_, ?_, ?_, ?_⟩
    · have whole : [';'].intercalate (text.toList.splitOn ';') = text.toList :=
        List.intercalate_splitOn ';'
      rw [← String.toList_inj, ← whole, segments, String.toList_intercalate, ← written]
      simp [Function.comp_def]
    · have own := plain segment (by simp)
      rw [← String.toList_ofList (l := segment), written] at own
      simp only [assignment, String.toList_append, List.mem_append, not_or] at own
      exact ⟨⟨own.1.1, uncut⟩, own.2⟩
    · intro part member
      rw [← List.map_append, List.mem_map] at member
      obtain ⟨characters, inside, rfl⟩ := member
      rw [String.toList_ofList]
      apply plain
      simp only [List.mem_append, List.mem_cons] at inside ⊢
      tauto
    · intro other member
      obtain ⟨characters, inside, again⟩ := List.mem_map.mp member
      have reads : pair? characters = some (key, other) := pair?_eq_some_iff.mpr ⟨again, uncut⟩
      have later : (key, other) ∈ later := behind ▸ List.mem_filterMap.mpr ⟨_, inside, reads⟩
      exact last _ later rfl
  · rintro ⟨front, back, rfl, assignable, plain, last⟩
    refine ⟨front.flatMap assignments, back.flatMap assignments, ?_, ?_⟩
    · rw [assignments_intercalate, List.flatMap_append, List.flatMap_append,
        List.flatMap_singleton, assignments_assignment assignable, List.append_assoc,
        List.singleton_append]
    · rintro ⟨again, other⟩ member rfl
      obtain ⟨segment, inside, assigned⟩ := List.mem_flatMap.mp member
      rw [assignments_of_segment (plain segment (List.mem_append_right front inside)),
        Option.mem_toList] at assigned
      obtain ⟨written, -⟩ := pair?_eq_some_iff.mp assigned
      rw [String.ofList_toList] at written
      exact last other (written ▸ inside)

end Segments

/-- A text behind a semicolon overrides the text before it. The text of assignments is read as what
each key is assigned last, and segments without an equals sign make no difference wherever they
stand. Every entry that is read comes from a segment that assigns it and behind which its key is not
assigned again, and no key has two entries. -/
theorem arguments_read_from_segments :
    (∀ first second key, (ofText (first ++ ";" ++ second)).lookup key =
      ((ofText second).lookup key).or ((ofText first).lookup key)) ∧
    (∀ pairs : List (String × String), (∀ pair ∈ pairs, Assignable pair) →
      ∀ key, (ofText (";".intercalate (pairs.map assignment))).lookup key =
        pairs.reverse.lookup key) ∧
    (∀ front skipped back : List String, (∀ segment ∈ skipped, '=' ∉ segment.toList) →
      ofText (";".intercalate (front ++ skipped ++ back)) =
        ofText (";".intercalate (front ++ back))) ∧
    (∀ text key value, (key, value) ∈ ofText text ↔ ∃ front back : List String,
      text = ";".intercalate (front ++ [assignment (key, value)] ++ back) ∧
      Assignable (key, value) ∧ (∀ segment ∈ front ++ back, ';' ∉ segment.toList) ∧
      ∀ other, assignment (key, other) ∉ back) ∧
    ∀ text, ((ofText text).map Prod.fst).Nodup := by
  refine ⟨?overridden, ?written, ?skipped, fun _ _ _ => mem_ofText_iff_segment, nodup_ofText⟩
  case overridden =>
    intro first second key
    rw [lookup_ofText, lookup_ofText, lookup_ofText, assignments_append, List.reverse_append,
      List.lookup_append]
  case written =>
    intro pairs assignable key
    have read : (pairs.map assignment).flatMap assignments = pairs := by
      rw [List.flatMap_map, List.flatMap_congr fun pair member =>
        assignments_assignment (assignable pair member), List.flatMap_singleton']
    rw [lookup_ofText, assignments_intercalate, read]
  case skipped =>
    intro front skipped back unassigned
    have nothing : skipped.flatMap assignments = [] :=
      List.flatMap_eq_nil_iff.mpr fun segment member =>
        assignments_eq_nil (unassigned segment member)
    have same : assignments (";".intercalate (front ++ skipped ++ back)) =
        assignments (";".intercalate (front ++ back)) := by
      rw [assignments_intercalate, assignments_intercalate, List.flatMap_append,
        List.flatMap_append, nothing, List.append_nil, List.flatMap_append]
    rw [ofText, ← assignments, same]
    rfl

/-- A key that is assigned twice, the second time a value with an equals sign in it, and an
assignment of nothing to nothing. -/
def repeatedPairs : List (String × String) :=
  [("K8S_POD_NAME", "web-0"), ("", ""), ("K8S_POD_NAME", "web=1")]

theorem arguments_read_from_segments_repeated :
    (∀ pair ∈ repeatedPairs, Assignable pair) ∧
    (ofText "K8S_POD_NAME=web-0;=;K8S_POD_NAME=web=1").lookup "K8S_POD_NAME" = some "web=1" ∧
    (∀ segment ∈ ["", "broken"], '=' ∉ segment.toList) ∧
    ofText "K8S_POD_NAME=web-0;;broken;=;K8S_POD_NAME=web=1" =
      ofText "K8S_POD_NAME=web-0;=;K8S_POD_NAME=web=1" ∧
    ∃ front back : List String, "K8S_POD_NAME=web-0;=;K8S_POD_NAME=web=1" =
        ";".intercalate (front ++ [assignment ("K8S_POD_NAME", "web=1")] ++ back) ∧
      ∀ other, assignment ("K8S_POD_NAME", other) ∉ back := by
  have assignable : ∀ pair ∈ repeatedPairs, Assignable pair := by
    intro pair member
    simp only [repeatedPairs, List.mem_cons, List.not_mem_nil, or_false] at member
    rcases member with rfl | rfl | rfl <;> exact ⟨by decide, by decide⟩
  have unassigned : ∀ segment ∈ ["", "broken"], '=' ∉ segment.toList := by decide
  obtain ⟨-, written, skipped, entries, once⟩ := arguments_read_from_segments
  have read : (ofText "K8S_POD_NAME=web-0;=;K8S_POD_NAME=web=1").lookup "K8S_POD_NAME" =
      some "web=1" :=
    written repeatedPairs assignable "K8S_POD_NAME"
  have entry := (lookup_eq_some_iff_mem (once _)).mp read
  obtain ⟨front, back, joined, -, -, last⟩ := (entries _ _ _).mp entry
  exact ⟨assignable, read, unassigned,
    skipped ["K8S_POD_NAME=web-0"] ["", "broken"] ["=", "K8S_POD_NAME=web=1"] unassigned,
    front, back, joined, last⟩

end Arguments

end OverlayNet
