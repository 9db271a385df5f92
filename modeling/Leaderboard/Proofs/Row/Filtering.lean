import Leaderboard.Proofs.Row.Projection
import Leaderboard.Proofs.Text.Split

set_option autoImplicit false

namespace Leaderboard

namespace Text

theorem strip_ne_nil {text : String} (ink : allBlank text = false) : strip text.toList ≠ [] := by
  rwa [ne_eq, strip_eq_nil_iff, Bool.not_eq_true]

variable {sep : Char} (visible : isBlank sep = false)

include visible

theorem splitAll_strip (cs : List Char) :
    splitAll sep (strip cs) = (splitAll sep cs).map strip := by
  induction cs with
  | nil => rfl
  | cons c rest ih =>
    obtain ⟨part, parts, cut⟩ := List.exists_cons_of_ne_nil (splitAll_ne_nil sep rest)
    rw [cut, List.map_cons] at ih
    by_cases same : c = sep
    · simp_all [strip, splitAll]
    · cases blank : isBlank c <;> simp_all [strip, splitAll]

theorem isSegment_strip_iff {part cs : List Char} :
    IsSegment sep part (strip cs) ↔ ∃ raw, IsSegment sep raw cs ∧ strip raw = part := by
  simp only [← mem_splitAll_iff, splitAll_strip visible, List.mem_map]

end Text

namespace NodeFilter

open Text (IsSegment)

-- White space may stand around the address or in it.
def Mentions (text : String) (id : NodeId) : Prop :=
  id ≠ "" ∧ ∃ raw, IsSegment ',' raw text.toList ∧ Text.strip raw = id.toList

theorem mem_segments_iff {id : NodeId} {cs : List Char} :
    id ∈ segments cs ↔ id ≠ "" ∧ IsSegment ',' id.toList cs := by
  simp only [segments, List.mem_map, List.mem_filter, Text.mem_splitAll_iff, Bool.not_eq_true',
    List.isEmpty_eq_false_iff]
  constructor
  · rintro ⟨part, ⟨inside, some⟩, rfl⟩
    rw [String.toList_ofList]
    exact ⟨by simpa using some, inside⟩
  · rintro ⟨some, inside⟩
    exact ⟨id.toList, ⟨inside, by simpa using some⟩, String.ofList_toList⟩

theorem mentions_iff {text : String} {id : NodeId} :
    Mentions text id ↔ id ∈ segments (Text.strip text.toList) := by
  rw [mem_segments_iff, Text.isSegment_strip_iff (by decide), Mentions]

theorem mem_nodeSet_iff {nodes : List NodeId} {id : NodeId} :
    id ∈ (nodeSet nodes).keys ↔ id ∈ nodes := by
  rw [← SortedMap.contains_iff, SortedMap.contains, nodeSet, SortedMap.find?_ofList,
    Option.isSome_iff_ne_none, ne_eq, SortedMap.findEntry_eq_none_iff]
  simp

theorem parse_of_ink {text : String} (ink : Text.strip text.toList ≠ []) :
    parse text = ofNodes (segments (Text.strip text.toList)) := by
  unfold parse
  split
  next blank => exact absurd blank ink
  next => rfl

theorem parse_of_blank {text : String} (blank : Text.strip text.toList = []) :
    parse text = .all := by
  rw [parse, blank]

theorem accepts_parse_of_ink {text : String} (ink : Text.strip text.toList ≠ []) (id : NodeId) :
    (parse text).accepts id = true ↔ Mentions text id := by
  rw [parse_of_ink ink, ofNodes, accepts_only, mem_nodeSet_iff, mentions_iff]

theorem accepts_parse_iff (text : String) (id : NodeId) :
    (parse text).accepts id = true ↔
      (∀ c ∈ text.toList, Text.isBlank c = true) ∨
        id ≠ "" ∧ IsSegment ',' id.toList (Text.strip text.toList) := by
  by_cases blank : Text.strip text.toList = []
  · rw [parse_of_blank blank]
    rw [Text.strip_eq_nil_iff, List.all_eq_true] at blank
    exact ⟨fun _ => .inl blank, fun _ => rfl⟩
  · rw [accepts_parse_of_ink blank, mentions_iff, mem_segments_iff]
    rw [Text.strip_eq_nil_iff, List.all_eq_true] at blank
    exact (or_iff_right blank).symm

theorem parse_eq_of_mentions {text other : String} (ink : Text.allBlank text = false)
    (inked : Text.allBlank other = false) (same : ∀ id, Mentions text id ↔ Mentions other id) :
    parse text = parse other := by
  rw [parse_of_ink (Text.strip_ne_nil ink), parse_of_ink (Text.strip_ne_nil inked), ofNodes,
    ofNodes]
  refine congrArg _ (SortedMap.eq_of_keys fun id => ?_)
  rw [mem_nodeSet_iff, mem_nodeSet_iff, ← mentions_iff, ← mentions_iff, same]

theorem not_mentions_of_commas {text : String}
    (empty : ∀ c ∈ text.toList, c = ',' ∨ Text.isBlank c = true) (id : NodeId) :
    ¬ Mentions text id := by
  rw [mentions_iff, mem_segments_iff]
  rintro ⟨some, before, after, cut, whole, -⟩
  -- What is left between two commas would be ink other than a comma, and there is none.
  refine some (String.toList_injective (List.eq_nil_iff_forall_not_mem.2 fun c inside => ?_))
  have kept : c ∈ Text.strip text.toList := by
    rw [cut]
    simp [inside]
  obtain ⟨listed, ink⟩ := List.mem_filter.1 kept
  rcases empty c listed with rfl | blank
  · exact whole inside
  · simp [blank] at ink

def Tidy (id : NodeId) : Prop := id ≠ "" ∧ ∀ c ∈ id.toList, c ≠ ',' ∧ Text.isBlank c = false

section joined

variable {ids : List NodeId} (tidy : ∀ id ∈ ids, Tidy id)

include tidy

theorem strip_joined :
    Text.strip (Text.joinWith ',' (ids.map String.toList)) =
      Text.joinWith ',' (ids.map String.toList) := by
  refine List.filter_eq_self.2 fun c inside => ?_
  rcases Text.mem_joinWith inside with rfl | ⟨part, listed, inside⟩
  · rfl
  · obtain ⟨id, member, rfl⟩ := List.mem_map.1 listed
    rw [((tidy id member).2 c inside).2]
    rfl

theorem segments_joined (some : ids ≠ []) :
    segments (Text.joinWith ',' (ids.map String.toList)) = ids := by
  have whole : ∀ part ∈ ids.map String.toList, ',' ∉ part := by
    intro part listed
    obtain ⟨id, member, rfl⟩ := List.mem_map.1 listed
    exact fun comma => ((tidy id member).2 _ comma).1 rfl
  have inked : ∀ part ∈ ids.map String.toList, (!part.isEmpty) = true := by
    intro part listed
    obtain ⟨id, member, rfl⟩ := List.mem_map.1 listed
    simpa using (tidy id member).1
  rw [segments, Text.splitAll_joinWith (by simpa using some) whole, List.filter_eq_self.2 inked,
    List.map_map]
  exact (List.map_congr_left fun _ _ => String.ofList_toList).trans (List.map_id ids)

theorem parse_joined (some : ids ≠ []) :
    parse (String.ofList (Text.joinWith ',' (ids.map String.toList))) = ofNodes ids := by
  have segments := segments_joined tidy some
  have ink : Text.strip (Text.joinWith ',' (ids.map String.toList)) ≠ [] := by
    rw [strip_joined tidy]
    intro blank
    rw [blank] at segments
    exact some segments.symm
  rw [parse_of_ink, String.toList_ofList, strip_joined tidy, segments]
  rwa [String.toList_ofList]

end joined

theorem parse_selects :
    (∀ (text : String) (id : NodeId), (parse text).accepts id = true ↔
      (∀ c ∈ text.toList, Text.isBlank c = true) ∨
        id ≠ "" ∧ IsSegment ',' id.toList (Text.strip text.toList)) ∧
    (∀ a b : String, Text.allBlank a = false → Text.allBlank b = false →
      (∀ id, Mentions a id ↔ Mentions b id) → parse a = parse b) ∧
    (∀ text : String, Text.allBlank text = true → parse text = .all) ∧
    (∀ text : String, (∀ c ∈ text.toList, c = ',' ∨ Text.isBlank c = true) → ',' ∈ text.toList →
      ∀ id, (parse text).accepts id = false) ∧
    ∀ nodes : SortedMap NodeId Unit, nodes.keys ≠ [] → (∀ id ∈ nodes.keys, Tidy id) →
      ∀ ids : List NodeId, (∀ id, id ∈ ids ↔ id ∈ nodes.keys) →
        parse (String.ofList (Text.joinWith ',' (ids.map String.toList))) = .only nodes := by
  refine ⟨accepts_parse_iff, fun _ _ => parse_eq_of_mentions, ?blank, ?commas, ?joined⟩
  case blank => exact fun text blank => parse_of_blank ((Text.strip_eq_nil_iff _).2 blank)
  case commas =>
    intro text empty comma id
    have ink : Text.strip text.toList ≠ [] :=
      List.ne_nil_of_mem (List.mem_filter.2 ⟨comma, rfl⟩)
    rw [Bool.eq_false_iff, ne_eq, accepts_parse_of_ink ink]
    exact not_mentions_of_commas empty id
  case joined =>
    intro nodes some tidy ids same
    have listed : ids ≠ [] := by
      rintro rfl
      exact some (List.eq_nil_iff_forall_not_mem.2 fun id inside => nomatch (same id).2 inside)
    rw [parse_joined (fun id inside => tidy id ((same id).1 inside)) listed, ofNodes]
    exact congrArg _ (SortedMap.eq_of_keys fun id => mem_nodeSet_iff.trans (same id))

-- Two texts that mention the same addresses, one of commas alone, and a set with a repetition.
theorem parse_selects_mentioned :
    let nodes : SortedMap NodeId Unit := (SortedMap.empty.insert "b" ()).insert "a" ()
    Text.allBlank "a b,c,," = false ∧ Text.allBlank " c ,ab, c" = false ∧
      (∀ id, Mentions "a b,c,," id ↔ Mentions " c ,ab, c" id) ∧
      parse "a b,c,," = parse " c ,ab, c" ∧
      parse "	 " = .all ∧ (parse " , ,").accepts "a" = false ∧
      nodes.keys ≠ [] ∧ (∀ id ∈ nodes.keys, Tidy id) ∧
      (∀ id, id ∈ ["b", "a", "b"] ↔ id ∈ nodes.keys) ∧
      parse (String.ofList (Text.joinWith ',' (["b", "a", "b"].map String.toList))) =
        .only nodes := by
  intro nodes
  have first : Text.allBlank "a b,c,," = false := by decide
  have second : Text.allBlank " c ,ab, c" = false := by decide
  have same : ∀ id, Mentions "a b,c,," id ↔ Mentions " c ,ab, c" id := by
    intro id
    have left : segments (Text.strip "a b,c,,".toList) = ["ab", "c"] := by decide
    have right : segments (Text.strip " c ,ab, c".toList) = ["c", "ab", "c"] := by decide
    rw [mentions_iff, mentions_iff, left, right]
    simp only [List.mem_cons, List.not_mem_nil, or_false]
    tauto
  have keys : nodes.keys = ["a", "b"] := by decide
  have some : nodes.keys ≠ [] := by decide
  have tidy : ∀ id ∈ nodes.keys, Tidy id := by
    rw [keys]
    refine List.forall_iff_forall_mem.1 ⟨⟨by decide, ?_⟩, by decide, ?_⟩
    all_goals exact List.forall_iff_forall_mem.1 (by decide)
  have listed : ∀ id, id ∈ ["b", "a", "b"] ↔ id ∈ nodes.keys := by
    intro id
    rw [keys]
    simp only [List.mem_cons, List.not_mem_nil, or_false]
    tauto
  obtain ⟨-, alike, blank, commas, joined⟩ := parse_selects
  exact ⟨first, second, same, alike _ _ first second same, blank _ (by decide),
    commas _ (List.forall_iff_forall_mem.1 (by decide)) (by decide) "a", some, tidy, listed,
    joined nodes some tidy _ listed⟩

end NodeFilter

end Leaderboard
