import Leaderboard.Failure
import Leaderboard.Proofs.Json.Writing
import Leaderboard.Proofs.Yaml.TwoLines
import Leaderboard.Report.Printer

set_option autoImplicit false

namespace Leaderboard.Report

open Json (Blank NameText ValueText)

theorem Status.isPlain (s : Status) : Yaml.StandsPlain s.word := by
  cases s <;> decide

theorem isKey_status : Yaml.IsKey "status" := ⟨by decide, 's', "tatus".toList, by decide, by decide⟩

theorem isKey_message : Yaml.IsKey "message" :=
  ⟨by decide, 'm', "essage".toList, by decide, by decide⟩

def namesOf : Option (Option Json) → List String
  | some (some (.object members)) => members.map Prod.fst
  | _ => []

namespace Printer

variable (showStderr colored : Bool) (s : Status) (message : String)

theorem out_yaml_status : (status ⟨.yaml, showStderr, colored⟩ s message).out =
    Yaml.twoEntries "status" s.word "message" message := by
  apply String.toList_injective
  simp [status, Output.lines, Yaml.twoEntries]

theorem yaml_status_reads_back_iff :
    let document := (status ⟨.yaml, showStderr, colored⟩ s message).out
    document = "status: " ++ s.word ++ "\nmessage: " ++ message ++ "\n" ∧
      ((Yaml.linesOf document.toList).length = 2 ∧ Yaml.read? document =
          some (some (.object [("status", .text s.word), ("message", .text message)])) ↔
        Yaml.StandsPlain message) := by
  intro document
  constructor
  · apply String.toList_injective
    simp [document, status, Output.lines]
  · simp only [document, out_yaml_status]
    exact Yaml.read?_twoEntries_iff isKey_status isKey_message s.isPlain (by decide) message

-- A colon stands behind the words that the message of a failure begins with.
theorem yaml_failure_lost (f : Failure) :
    let document := (status ⟨.yaml, showStderr, colored⟩ s f.message).out
    ¬ ((Yaml.linesOf document.toList).length = 2 ∧ Yaml.read? document =
      some (some (.object [("status", .text s.word), ("message", .text f.message)]))) := by
  intro document
  simp only [document, out_yaml_status]
  rw [Yaml.read?_twoEntries_iff isKey_status isKey_message s.isPlain (by decide)]
  intro plain
  have apart := plain.seamless.colons f.kind.lead.toList (' ' :: f.detail.toList)
    (by simp [Failure.message])
  cases apart

-- A colon makes the document unreadable, and a break adds a key.
theorem yaml_status_broken :
    let document := fun message => (status ⟨.yaml, false, false⟩ .error message).out
    Yaml.read? (document "Fetch error: connection refused") = none ∧
      ∃ members, Yaml.read? (document "done\nextra: yes") = some (some (.object members)) ∧
        members.map Prod.fst = ["status", "message", "extra"] := by
  intro document
  have unreadable : (Yaml.read? (document "Fetch error: connection refused")).isNone = true := by
    decide +kernel
  have names : namesOf (Yaml.read? (document "done\nextra: yes")) =
      ["status", "message", "extra"] := by decide +kernel
  refine ⟨Option.isNone_iff_eq_none.1 unreadable, ?_⟩
  unfold namesOf at names
  split at names
  next members read => exact ⟨members, read, names⟩
  next => cases names

theorem json_status_reads_back :
    Json.read? (status ⟨.json, showStderr, colored⟩ s message).out.toList =
      some (.object [("message", .text message), ("status", .text s.word)]) := by
  have named (name : String) :
      NameText (['\n', ' ', ' '] ++ (Json.writeText name ++ [':'])) name := by
    have text := NameText.name (by decide : Blank ['\n', ' ', ' '])
      (Json.textBody_escaped name) Json.blank_nil
    simpa [Json.writeText] using text
  have valued (text : String) : ValueText 126 (' ' :: Json.writeText text) (.text text) :=
    ValueText.text (by decide : Blank [' ']) (Json.textBody_escaped text)
  have written := ValueText.object Json.blank_nil (.cons (named "message") (valued message)
    Json.blank_nil (.last (named "status") (valued s.word) (by decide : Blank ['\n'])))
  have read : Json.readPart Json.maxDepth (_ ++ ['\n']) = some (_, ['\n']) :=
    Json.readPart_append written trivial
  simp only [List.append_assoc, List.cons_append, List.nil_append] at read
  have nothing : Json.skipSpace ['\n'] = [] := by decide
  simp [status, Output.line, Json.pretty, Json.writePretty, Json.writePrettyMembers, Json.write,
    Json.newLine, Json.read?, read, nothing]

end Printer

end Leaderboard.Report
