import Leaderboard.Proofs.Text.Trim
import Leaderboard.Yaml.Plain
import Leaderboard.Yaml.Resolve

set_option autoImplicit false

namespace Leaderboard.Yaml

open Text (Unpadded)

-- No colon stands in front of a gap or the end, and no comment behind a gap.
structure Seamless (line : Line) : Prop where
  colons : ∀ before after, line = before ++ ':' :: after → atGap after = false
  hashes : ∀ before c after, line = before ++ c :: '#' :: after → isGap c = false

def Unbroken (line : Line) : Prop := ∀ c ∈ line, c ≠ '\n' ∧ c ≠ '\r'

instance (line : Line) : Decidable (Unbroken line) :=
  decidable_of_iff (line.all (fun c => c != '\n' && c != '\r') = true) (by simp [Unbroken])

structure StandsPlain (text : String) : Prop where
  unbroken : Unbroken text.toList
  goesOn : '\x00' ∉ text.toList
  starts : startsPlain false text.toList = true
  ends : ∀ c, text.toList.getLast? = some c → isGap c = false
  seamless : Seamless text.toList
  means : resolve? text = some (.text text)

theorem endsMark_block (line : Line) : endsMark false line = atGap line := by
  cases line <;> simp [endsMark, atGap]

theorem plainPart_join (inFlow afterGap : Bool) (line : Line) :
    (plainPart inFlow afterGap line).1 ++ (plainPart inFlow afterGap line).2 = line := by
  induction line generalizing afterGap with
  | nil => rfl
  | cons c rest ih =>
    rw [plainPart]
    split
    · rfl
    · exact congrArg (c :: ·) (ih (isGap c))

theorem plainLine_eq (inFlow : Bool) (line : Line) :
    plainLine inFlow line =
      (trimGaps (plainPart inFlow false line).1, (plainPart inFlow false line).2) := rfl

theorem Seamless.tail {c : Char} {rest : Line} (seamless : Seamless (c :: rest)) :
    Seamless rest where
  colons before after same := seamless.colons (c :: before) after (congrArg (c :: ·) same)
  hashes before d after same := seamless.hashes (c :: before) d after (congrArg (c :: ·) same)

def Stops (stop : Line) : Prop := ∀ afterGap, plainPart false afterGap stop = ([], stop)

theorem stops_nil : Stops [] := fun _ => rfl

theorem stops_colon {rest : Line} (gap : atGap rest = true) : Stops (':' :: rest) := by
  intro afterGap
  simp [plainPart, endsMark_block, gap]

theorem plainPart_append {line stop : Line} (seamless : Seamless line) (stops : Stops stop)
    {afterGap : Bool} (first : afterGap = true → line.head? ≠ some '#') :
    plainPart false afterGap (line ++ stop) = (line, stop) := by
  induction line generalizing afterGap with
  | nil => exact stops afterGap
  | cons c rest ih =>
    have later : plainPart false (isGap c) (rest ++ stop) = (rest, stop) := by
      refine ih seamless.tail fun gap hash => ?_
      obtain ⟨after, rfl⟩ := List.head?_eq_some_iff.1 hash
      exact absurd (seamless.hashes [] c after rfl) (by simp [gap])
    have colon : ¬ (c = ':' ∧ atGap (rest ++ stop) = true) := by
      rintro ⟨rfl, gap⟩
      have inside := seamless.colons [] rest rfl
      cases rest with
      | nil => cases inside
      | cons d rest => cases gap.symm.trans inside
    have hash : ¬ (c = '#' ∧ afterGap = true) := by
      rintro ⟨rfl, gap⟩
      exact first gap rfl
    simp [plainPart, endsMark_block, colon, hash, later]

theorem seamless_of_plainPart {line : Line} {afterGap : Bool}
    (whole : plainPart false afterGap line = (line, [])) : Seamless line := by
  induction line generalizing afterGap with
  | nil => exact ⟨by simp, by simp⟩
  | cons c rest ih =>
    rw [plainPart] at whole
    split at whole
    next => cases whole
    next goesOn =>
      have later : plainPart false (isGap c) rest = (rest, []) := by
        simpa [Prod.ext_iff] using whole
      have seamless := ih later
      constructor
      case colons =>
        intro before after same
        cases before with
        | nil =>
          cases same
          simpa [endsMark_block] using goesOn
        | cons d before => exact seamless.colons before after (List.cons.inj same).2
      case hashes =>
        intro before d after same
        cases before with
        | nil =>
          cases same
          by_contra gap
          rw [Bool.not_eq_false] at gap
          simp [plainPart, gap] at later
        | cons e before => exact seamless.hashes before d after (List.cons.inj same).2

theorem startsPlain_append {line : Line} (starts : startsPlain false line = true) (stop : Line) :
    startsPlain false (line ++ stop) = true := by
  cases line with
  | nil => cases starts
  | cons c rest =>
    cases rest with
    | nil =>
      rw [startsPlain] at starts
      split at starts
      -- A mark on its own begins nothing.
      next => cases starts
      next unmarked => rwa [List.singleton_append, startsPlain, if_neg unmarked]
    | cons d rest => exact starts

theorem opening_of_startsPlain {line : Line} (starts : startsPlain false line = true) {c : Char}
    (first : line.head? = some c) : isReserved c = false ∧ isGap c = false := by
  obtain ⟨rest, rfl⟩ := List.head?_eq_some_iff.1 first
  rw [startsPlain] at starts
  split at starts
  next mark =>
    simp only [Bool.or_eq_true, beq_iff_eq] at mark
    rcases mark with (rfl | rfl) | rfl <;> decide
  next => simpa using starts

structure Bare (line : Line) : Prop where
  starts : startsPlain false line = true
  ends : ∀ c, line.getLast? = some c → isGap c = false
  seamless : Seamless line

theorem StandsPlain.bare {text : String} (stands : StandsPlain text) : Bare text.toList :=
  ⟨stands.starts, stands.ends, stands.seamless⟩

namespace Bare

variable {line : Line}

theorem unpadded (bare : Bare line) : Unpadded isGap line :=
  ⟨fun _ first => (opening_of_startsPlain bare.starts first).2, bare.ends⟩

theorem plainLine_append (bare : Bare line) {stop : Line} (stops : Stops stop) :
    plainLine false (line ++ stop) = (line, stop) := by
  have whole : trimGaps line = line := (Text.dropEnds_eq_self_iff _).2 bare.unpadded
  rw [plainLine_eq, plainPart_append bare.seamless stops (by simp), whole]

end Bare

theorem whole_of_plainLine {line : Line} (long : line.length ≤ (plainLine false line).1.length) :
    plainLine false line = (line, []) ∧ Seamless line ∧ Unpadded isGap line := by
  have join := plainPart_join false false line
  obtain ⟨part, stop, cut⟩ : ∃ part stop, plainPart false false line = (part, stop) := ⟨_, _, rfl⟩
  simp only [plainLine_eq, cut] at long join ⊢
  subst join
  have trimmed : (trimGaps part).Sublist part := Text.dropEnds_sublist isGap part
  have short := trimmed.length_le
  rw [List.length_append] at long
  have nothing : stop = [] := List.eq_nil_of_length_eq_zero (by omega)
  subst nothing
  have same : trimGaps part = part := trimmed.eq_of_length_le (by omega)
  rw [List.append_nil] at cut ⊢
  exact ⟨by rw [same], seamless_of_plainPart cut, (Text.dropEnds_eq_self_iff _).1 same⟩

theorem eq_of_resolve? {text meant : String} (means : resolve? text = some (.text meant)) :
    meant = text := by
  unfold resolve? at means
  repeat' split at means
  all_goals cases means
  rfl

def meansItself (text : String) : Bool :=
  match resolve? text with
  | some (.text meant) => meant == text
  | _ => false

theorem meansItself_iff (text : String) :
    meansItself text = true ↔ resolve? text = some (.text text) := by
  unfold meansItself
  split
  next meant means => simp [means, eq_of_resolve? means]
  next other =>
    constructor
    · nofun
    · intro means
      exact absurd means (other text)

theorem standsPlain_iff (text : String) :
    StandsPlain text ↔ Unbroken text.toList ∧ '\x00' ∉ text.toList ∧
      startsPlain false text.toList = true ∧
      plainLine false text.toList = (text.toList, []) ∧ meansItself text = true := by
  rw [meansItself_iff]
  constructor
  · intro stands
    have line := stands.bare.plainLine_append stops_nil
    rw [List.append_nil] at line
    exact ⟨stands.unbroken, stands.goesOn, stands.starts, line, stands.means⟩
  · rintro ⟨unbroken, goesOn, starts, line, means⟩
    obtain ⟨-, seamless, unpadded⟩ := whole_of_plainLine (by rw [line])
    exact ⟨unbroken, goesOn, starts, unpadded.last, seamless, means⟩

instance : DecidablePred StandsPlain := fun text => decidable_of_iff _ (standsPlain_iff text).symm

end Leaderboard.Yaml
