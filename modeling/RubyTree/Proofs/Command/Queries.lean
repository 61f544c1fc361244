/-
Running queries and getting fields.

`run` reports on every query of a file, `get` on one field at one place. For each query of a file
that was read, both come to the same: `Answered` says what `get` reports for the result of a query,
and `answered_get` that it does so when it is given the path of the query. A path of a query can be
given as text, because its indices are words (`QueryFile.lt_bound_of_load`). `Listed` says what
`run` writes about the results of the queries, one by one, and counts the failures.
-/

import RubyTree.Command.Perform
import RubyTree.Proofs.ChildPath
import RubyTree.Proofs.Outcome
import RubyTree.Proofs.Query.Select

namespace RubyTree

/-! ### The paths of a query file -/

theorem Toml.Value.lt_bound_of_natural? {v : Toml.Value} {n : Nat} (h : v.natural? = some n) :
    n < ChildPath.bound := by
  cases v with
  | int i =>
    rw [natural?] at h
    split at h
    · cases h
      have := i.toInt_lt
      rw [ChildPath.bound]
      omega
    · cases h
  | _ => cases h

namespace QueryFile

/-- An item of a list that was decoded was decoded from a value. -/
theorem exists_of_mem_list? {α : Type} {item? : Toml.Value → Option α} {v : Option Toml.Value}
    {as : List α} (h : list? item? v = some as) {a : α} (ha : a ∈ as) :
    ∃ w, item? w = some a := by
  cases v with
  | none =>
    cases h
    cases ha
  | some v =>
    obtain ⟨items, -, hitems⟩ := Option.bind_eq_some_iff.mp h
    obtain ⟨w, -, hw⟩ := Outcome.exists_of_mem_mapM hitems ha
    exact ⟨w, hw⟩

/-- The path of a query that was decoded consists of unsigned words. -/
theorem lt_bound_of_query? {v : Toml.Value} {q : Query} (h : query? v = some q) {i : Nat}
    (hi : i ∈ q.path) : i < ChildPath.bound := by
  simp only [query?, Option.bind_eq_bind, Option.bind_eq_some_iff] at h
  obtain ⟨members, -, _, -, id, -, path, hpath, _, -, field, -, hq⟩ := h
  cases hq
  obtain ⟨w, hw⟩ := exists_of_mem_list? hpath hi
  exact Toml.Value.lt_bound_of_natural? hw

theorem exists_query?_of_mem {entries : Toml.Entries} {f : QueryFile}
    (h : ofEntries? entries = some f) {q : Query} (hq : q ∈ f.queries) :
    ∃ v, query? v = some q := by
  simp only [ofEntries?, Option.bind_eq_bind, Option.bind_eq_some_iff] at h
  obtain ⟨heading, -, queries, hqueries, hf⟩ := h
  cases hf
  exact exists_of_mem_list? hqueries hq

/-- A query file that was read stands in a text, and nothing is wrong with it. -/
theorem exists_of_load {files : Files} {path : String} {f : QueryFile}
    (h : load files path = .ok f) :
    ∃ text entries, files path = .ok text ∧ Toml.read text = some entries ∧
      ofEntries? entries = some f ∧ f.issues = [] := by
  unfold load at h
  split at h
  · cases h
  rename_i text hfile
  unfold readText at h
  split at h
  · cases h
  rename_i g hread
  obtain ⟨entries, hentries, hg⟩ := Option.bind_eq_some_iff.mp hread
  split at h
  · rename_i none
    cases h
    exact ⟨text, entries, hfile, hentries, hg, none⟩
  · cases h

/-- The indices in the queries of a file that was read are words. -/
theorem lt_bound_of_load {files : Files} {path : String} {f : QueryFile}
    (h : load files path = .ok f) {q : Query} (hq : q ∈ f.queries) {i : Nat} (hi : i ∈ q.path) :
    i < ChildPath.bound := by
  obtain ⟨-, entries, -, -, hf, -⟩ := exists_of_load h
  obtain ⟨v, hv⟩ := exists_query?_of_mem hf hq
  exact lt_bound_of_query? hv hi

end QueryFile

namespace Command

open Text (Style)

/-! ### One query -/

/-- What `get` reports on a result: a value on indented lines, or the message of a failure behind
one of two marks. -/
inductive Answered (styled : Bool) : Except String Json → Report → Prop where
  | value (v : Json) : Answered styled (.ok v) ⟨v.pretty ++ "\n", "", 0⟩
  | noNode (message : String) :
    Answered styled (.error message) ⟨"", "Error: " ++ message ++ "\n", 1⟩
  | refused (message : String) :
    Answered styled (.error message)
      ⟨"", Style.redBold.paint styled "error:" ++ " " ++ message ++ "\n", 1⟩

/-- The exit code is zero for a result and not for a failure. -/
theorem Answered.isOk_iff {styled : Bool} {result : Except String Json} {report : Report}
    (h : Answered styled result report) : result.isOk = true ↔ report.exit = 0 := by
  cases h <;> simp [Except.isOk, Except.toBool]

/-- With a tree that was read, a command goes on with its root. -/
theorem withTree_of_load {files : Files} {tree : String} {source : Option String} {root : Node}
    (h : (Document.load files tree source).1 = .ok root)
    (next : Node → Report × List Log.Event) :
    (withTree files tree source next).1 = (next root).1 := by
  unfold withTree
  split
  · rename_i hload
    rw [hload] at h
    cases h
  · rename_i hload
    rw [hload] at h
    cases h
    rfl

/-- The report on a field at a node answers what selecting the field comes to. -/
theorem answered_getField (styled : Bool) (field : String) (n : Node) :
    Answered styled ((n.select field).mapError Refusal.message) (getField styled field n).1 := by
  unfold getField
  cases n.select field with
  | ok v => exact .value v
  | error refusal => exact .refused _

/-- Given the place and the field of a query, `get` reports the result of the query. -/
theorem answered_get {files : Files} {tree : String} {source : Option String} {root : Node}
    (h : (Document.load files tree source).1 = .ok root) (styled : Bool) (q : Query) :
    Answered styled ((q.run root).mapError Query.Failure.message)
      ((Command.get tree q.field source q.path).perform files styled).1 := by
  rw [perform, withNode, withTree_of_load h, Query.run]
  cases root.atPath? q.path with
  | none =>
    have report : Report.failure (Query.Failure.noNode q.path).message [] =
        ⟨"", "Error: " ++ (Query.Failure.noNode q.path).message ++ "\n", 1⟩ := by
      simp [Report.failure, Report.causes]
    simp only [report]
    exact .noNode _
  | some n =>
    have same : ((n.select q.field).mapError Query.Failure.refused).mapError
        Query.Failure.message = (n.select q.field).mapError Refusal.message := by
      cases n.select q.field <;> rfl
    simp only [same]
    exact answered_getField styled q.field n

/-! ### All queries -/

/-- What `run` writes about entries, each with the id of its query: every entry has one line, a
value on the first output and a failure on the second, in order. The failures are counted. -/
inductive Listed (styled : Bool) :
    List (String × Except String Json) → String → String → Nat → Prop where
  | nil : Listed styled [] "" "" 0
  | value {entries : List (String × Except String Json)} {out err : String} {failed : Nat}
      (id : String) (v : Json) (rest : Listed styled entries out err failed) :
    Listed styled ((id, .ok v) :: entries)
      (Style.green.paint styled "✓" ++ " " ++ id ++ ": " ++ v.compact ++ "\n" ++ out) err failed
  | failure {entries : List (String × Except String Json)} {out err : String} {failed : Nat}
      (id message : String) (rest : Listed styled entries out err failed) :
    Listed styled ((id, .error message) :: entries) out
      (Style.red.paint styled "✗" ++ " " ++ id ++ ": " ++ message ++ "\n" ++ err) (failed + 1)

/-- Nothing is counted exactly when no entry is a failure. -/
theorem Listed.eq_zero_iff {styled : Bool} {entries : List (String × Except String Json)}
    {out err : String} {failed : Nat} (h : Listed styled entries out err failed) :
    failed = 0 ↔ ∀ e ∈ entries, e.2.isOk = true := by
  induction h with
  | nil => simp
  | value id v _ ih =>
    rw [ih, List.forall_mem_cons]
    exact (and_iff_right rfl).symm
  | failure id message _ _ => simp [Except.isOk, Except.toBool]

/-- The lines on results are those of the entries with the messages of the failures. -/
theorem listed_lines (styled : Bool) (results : List (String × Except Query.Failure Json)) :
    Listed styled (results.map fun r => (r.1, r.2.mapError Query.Failure.message))
      (String.join (resultLines styled results)) (String.join (failureLines styled results))
      (failureLines styled results).length := by
  induction results with
  | nil => exact .nil
  | cons r results ih =>
    obtain ⟨id, result⟩ := r
    cases result with
    | ok v =>
      have line : resultLines styled ((id, .ok v) :: results) =
          resultLine styled id v :: resultLines styled results := rfl
      rw [line, String.join_cons]
      exact .value id v ih
    | error f =>
      have line : failureLines styled ((id, .error f) :: results) =
          failureLine styled id f :: failureLines styled results := rfl
      rw [line, String.join_cons, List.length_cons]
      exact .failure id f.message ih

/-- **Running queries agrees with getting fields.** With a query file and a tree that were read,
`run` has one entry for each query, with its id and in the order of the file. When the path of the
query is written as text and read again, `get` at this path reports the entry: it succeeds exactly
when the entry is a value, and prints this value, and else it fails with the message of the entry.
What `run` writes are the lines of the entries, behind the name of the file and in front of the
number of failures; it ends with 0 when no entry is a failure, and else with 1. -/
theorem run_agrees_get {files : Files} {queries tree : String} {source : Option String}
    {f : QueryFile} {root : Node} (hf : QueryFile.load files queries = .ok f)
    (hr : (Document.load files tree source).1 = .ok root) (styled : Bool) :
    ∃ entries out err failed,
      List.Forall₂ (fun q entry => entry.1 = q.id ∧
        ∃ path, ChildPath.parse (ChildPath.format q.path) = .ok path ∧
          ∃ report, ((Command.get tree q.field source path).perform files styled).1 = report ∧
            Answered styled entry.2 report ∧ (entry.2.isOk = true ↔ report.exit = 0))
        f.queries entries ∧
      Listed styled entries out err failed ∧
      ((Command.run queries tree source).perform files styled).1 =
        ⟨(if f.name = "" then "" else Style.bold.paint styled f.name ++ "\n") ++ out,
          err ++ (if failed = 0 then ""
            else "\n  " ++ Style.red.paint styled (toString failed) ++ " failed\n"),
          if failed = 0 then 0 else 1⟩ ∧
      (failed = 0 ↔ ∀ entry ∈ entries, entry.2.isOk = true) := by
  have listed := listed_lines styled (Query.runAll f.queries root)
  refine ⟨_, _, _, _, ?each, listed, ?report, listed.eq_zero_iff⟩
  case each =>
    rw [Query.runAll, List.map_map, List.forall₂_map_right_iff, List.forall₂_same]
    intro q hq
    have path : ChildPath.parse (ChildPath.format q.path) = .ok q.path :=
      ChildPath.parse_format fun _ => QueryFile.lt_bound_of_load hf hq
    have answered := answered_get hr styled q
    exact ⟨rfl, q.path, path, _, rfl, answered, answered.isOk_iff⟩
  case report =>
    rw [perform, hf]
    simp only [withTree_of_load hr, runQueries, List.isEmpty_iff, List.length_eq_zero_iff]

/-- A query with a value and one without a node: `get` prints the value of the first and the message
of the second, and `run` has both. -/
theorem run_agrees_get_mixed :
    let files : Files := fun name =>
      .ok (if name = "tree" then "[\"lvar\",\"x\"]"
        else "[[queries]]\nid='a'\nfield='name'\n[[queries]]\nid='b'\nfield='name'\npath=[7]")
    let get (path : List Nat) := ((Command.get "tree" "name" none path).perform files false).1
    ∃ v message, Answered false (.ok v) (get []) ∧ Answered false (.error message) (get [7]) ∧
      ((Command.run "queries" "tree" none).perform files false).1 =
        ⟨"✓ a: " ++ v.compact ++ "\n", "✗ b: " ++ message ++ "\n\n  1 failed\n", 1⟩ := by
  intro files get
  let root : Node := .mk 0 .lvar [.sym "x"] none
  have hf : QueryFile.load files "queries" =
      .ok ⟨"", none, [⟨"a", [], "name"⟩, ⟨"b", [7], "name"⟩]⟩ := by
    -- the readers recurse on the rest of the text, and such definitions are not unfolded otherwise
    with_unfolding_all rfl
  have hr : (Document.load files "tree" none).1 = .ok root := by
    have read : Json.read "[\"lvar\",\"x\"]" = .ok (.arr [.str "lvar", .str "x"]) := by
      with_unfolding_all rfl
    simp only [Document.load, files, if_true, Document.readText, read, Document.build,
      Document.readNode, Document.readChildren, Document.readChild, Document.slots,
      Document.isNodeShaped]
    rfl
  have found : (get []).exit = 0 := by
    have field : root.field "name" = .ok (.one (.sym "x")) := rfl
    have outline : (Reading.one (.sym "x")).outline = .ok (.sym "x") := by
      rw [Reading.outline, Child.outline]
    simp only [get, perform, withNode, withTree_of_load hr, Node.atPath?, getField,
      Node.select_of_field field, outline]
    rfl
  have lost : (get [7]).exit = 1 := by
    simp only [get, perform, withNode, withTree_of_load hr]
    rfl
  obtain ⟨_, out, err, failed, each, listed, report, -⟩ := run_agrees_get hf hr false
  obtain ⟨⟨_, a⟩, _, ⟨rfl, path, ha, _, rfl, first, firstOk⟩, others, rfl⟩ :=
    List.forall₂_cons_left_iff.mp each
  obtain ⟨⟨_, b⟩, _, ⟨rfl, path', hb, _, rfl, second, secondOk⟩, ends, rfl⟩ :=
    List.forall₂_cons_left_iff.mp others
  cases List.forall₂_nil_left_iff.mp ends
  cases (ChildPath.parse_format (by decide)).symm.trans ha
  cases (ChildPath.parse_format (by decide)).symm.trans hb
  -- the exit codes of `get` leave one mix of entries
  cases a with
  | error _ => cases firstOk.mpr found
  | ok v =>
    cases b with
    | ok _ => cases lost.symm.trans (secondOk.mp rfl)
    | error message =>
      cases listed with
      | value _ _ rest =>
        cases rest with
        | failure _ _ rest =>
          cases rest
          refine ⟨v, message, first, second, report.trans ?_⟩
          simp only [Style.paint, String.append_assoc]
          rfl

end Command

end RubyTree
