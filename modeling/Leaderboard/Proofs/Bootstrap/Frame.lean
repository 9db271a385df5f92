import Leaderboard.Bootstrap.Script
import Mathlib.Data.List.Basic

set_option autoImplicit false

namespace Leaderboard.Bootstrap

-- The key without its field.
def IndexKey.shape (k : IndexKey) : IndexKey := { k with field := "" }

def Index.shape (i : Index) : Index := { i with keys := i.keys.map IndexKey.shape }

def Collection.shape (c : Collection) : Collection := ⟨"", c.indexes.map Index.shape⟩

def ReplicaSet.shape (r : ReplicaSet) : ReplicaSet := ⟨"", r.members.map fun _ => ""⟩

def Plan.shape (p : Plan) : Plan where
  database := ""
  collections := p.collections.map Collection.shape
  appUser := p.appUser.map fun _ => ⟨"", "", "", ""⟩
  replicaSet := p.replicaSet.map ReplicaSet.shape

namespace Segment

def erase : Segment → Segment
  | code source => code source
  | literal _ => literal ""
  | verbatim _ => verbatim ""

def chars (s : Segment) : List Char := s.text.toList

end Segment

namespace Script

def eraseLine (l : Line) : Line := l.map Segment.erase

theorem eraseLine_append (l k : Line) : eraseLine (l ++ k) = eraseLine l ++ eraseLine k :=
  List.map_append

theorem eraseLine_cons (s : Segment) (l : Line) :
    eraseLine (s :: l) = s.erase :: eraseLine l := rfl

theorem eraseLine_separated (separator : String) (ls : List Line) :
    eraseLine (separated separator ls) = separated separator (ls.map eraseLine) := by
  induction ls using separated.induct with
  | case1 => rfl
  | case2 entry => rfl
  | case3 entry next rest ih =>
    rw [separated, eraseLine_append, eraseLine_cons, ih]
    rfl

-- the numbers of the members are code, so they have to stay
theorem eraseLine_members (members : List String) :
    eraseLine (separated ", " (members.zipIdx.map memberSegments)) =
      separated ", " ((members.map fun _ => "").zipIdx.map memberSegments) := by
  rw [eraseLine_separated, List.zipIdx_map, List.map_map, List.map_map]
  rfl

theorem erase_replicaSetLines (r : ReplicaSet) :
    (replicaSetLines r).map eraseLine = replicaSetLines r.shape := by
  simp only [replicaSetLines, List.map_cons, List.map_nil, eraseLine_append, eraseLine_members]
  rfl

theorem eraseLine_indexLine (collection : String) (i : Index) :
    eraseLine (indexLine collection i) = indexLine "" i.shape := by
  have keys : eraseLine (separated ", " (i.keys.map keySegments)) =
      separated ", " (i.shape.keys.map keySegments) := by
    rw [eraseLine_separated, Index.shape, List.map_map, List.map_map]
    rfl
  rw [indexLine, eraseLine_append, eraseLine_append, keys]
  rfl

theorem erase_collectionLines (c : Collection) :
    (collectionLines c).map eraseLine = collectionLines c.shape := by
  have indexes : (c.indexes.map (indexLine c.name)).map eraseLine =
      c.shape.indexes.map (indexLine "") := by
    rw [Collection.shape, List.map_map, List.map_map]
    exact List.map_congr_left fun i _ => eraseLine_indexLine c.name i
  simp only [collectionLines, List.map_cons, indexes]
  rfl

theorem erase_lines (p : Plan) : (lines p).map eraseLine = lines p.shape := by
  have collections : (p.collections.flatMap collectionLines).map eraseLine =
      (p.collections.map Collection.shape).flatMap collectionLines := by
    rw [List.map_flatMap, List.flatMap_map]
    simp only [erase_collectionLines]
  have replicaSet : ((p.replicaSet.map replicaSetLines).getD []).map eraseLine =
      ((p.replicaSet.map ReplicaSet.shape).map replicaSetLines).getD [] := by
    cases p.replicaSet with
    | none => rfl
    | some r => exact erase_replicaSetLines r
  have user : ((p.appUser.map userLines).getD []).map eraseLine =
      ((p.appUser.map fun _ => AppUser.mk "" "" "" "").map userLines).getD [] := by
    cases p.appUser <;> rfl
  simp only [lines, List.map_append, collections, replicaSet, user]
  rfl

-- The segments of a script, the line breaks among them.
def segments (p : Plan) : List Segment := (lines p).flatMap (· ++ [.code "\n"])

theorem toList_textOf (ls : List Line) :
    (textOf ls).toList = (ls.flatMap (· ++ [.code "\n"])).flatMap Segment.chars := by
  have line (l : Line) :
      (l.text ++ "\n").toList = (l ++ [Segment.code "\n"]).flatMap Segment.chars := by
    rw [Line.text, String.toList_append, String.toList_join, List.flatMap_append, List.flatMap_map]
    rfl
  rw [textOf, String.toList_join, List.flatMap_map, List.flatMap_assoc]
  simp only [line]

theorem erase_segments (p : Plan) : (segments p).map Segment.erase = segments p.shape := by
  rw [segments, segments, ← erase_lines, List.map_flatMap, List.flatMap_map]
  simp [eraseLine, Segment.erase]

end Script

end Leaderboard.Bootstrap
