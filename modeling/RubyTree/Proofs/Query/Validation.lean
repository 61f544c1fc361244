/-
What is wrong with a query file.

Ids and fields are judged trimmed. `Query.Reported earlier q issues` says what there is to report
about one query behind the `earlier` ones: first about its id, then about its field. The search for
issues carries the ids seen so far instead of the queries; a blank id is seen as well, but nothing
is reported for being equal to it.

* `QueryFile.issuesAfter_reports` — the issues of a file are those of its queries, in order.
* `QueryFile.issuesAfter_eq_nil_iff` — there are none exactly when nothing is blank and no id is
  used twice.
* `QueryFile.count_issuesAfter` — every use of an id but the first is reported once.
-/

import Mathlib.Data.List.Nodup
import RubyTree.Query.Load

namespace RubyTree

open QueryFile (Issue)

namespace Query

/-- The id of a query without the white space around it. -/
def trimmedId (q : Query) : String :=
  Text.trim q.id

/-- What is reported about the id of a query behind earlier ones. -/
inductive IdReported (earlier : List Query) (q : Query) : List Issue → Prop where
  | blank (h : q.trimmedId = "") : IdReported earlier q [.missing none "id"]
  | used {e : Query} (named : q.trimmedId ≠ "") (mem : e ∈ earlier)
      (same : e.trimmedId = q.trimmedId) : IdReported earlier q [.repeated q.trimmedId]
  | fresh (named : q.trimmedId ≠ "") (other : ∀ e ∈ earlier, e.trimmedId ≠ q.trimmedId) :
      IdReported earlier q []

/-- What is reported about the field of a query, by its id when it has one. -/
inductive FieldReported (q : Query) : List Issue → Prop where
  | named (h : Text.trim q.field = "") (named : q.trimmedId ≠ "") :
      FieldReported q [.missing (some q.trimmedId) "field"]
  | unnamed (h : Text.trim q.field = "") (blank : q.trimmedId = "") :
      FieldReported q [.missing none "field"]
  | present (h : Text.trim q.field ≠ "") : FieldReported q []

/-- What is reported about a query behind earlier ones. -/
def Reported (earlier : List Query) (q : Query) (issues : List Issue) : Prop :=
  ∃ ids fields, issues = ids ++ fields ∧ IdReported earlier q ids ∧ FieldReported q fields

end Query

namespace QueryFile

/-- The ids that were seen are those of the earlier queries. -/
def Tracks (seen : List String) (earlier : List Query) : Prop :=
  ∀ id, id ∈ seen ↔ ∃ e ∈ earlier, e.trimmedId = id

/-! ### One query -/

section Step

variable {seen : List String} {earlier : List Query}

theorem issuesAfter_cons (seen : List String) (q : Query) (qs : List Query) :
    issuesAfter seen (q :: qs) = idIssues seen q.trimmedId ++
      fieldIssues q.trimmedId (Text.trim q.field) ++ issuesAfter (q.trimmedId :: seen) qs :=
  rfl

theorem Tracks.cons (h : Tracks seen earlier) (q : Query) :
    Tracks (q.trimmedId :: seen) (earlier ++ [q]) := by
  intro id
  rw [List.mem_cons, h id]
  constructor
  · rintro (rfl | ⟨e, mem, same⟩)
    · exact ⟨q, List.mem_append_right _ List.mem_cons_self, rfl⟩
    · exact ⟨e, List.mem_append_left _ mem, same⟩
  · rintro ⟨e, mem, same⟩
    rcases List.mem_append.mp mem with mem | mem
    · exact .inr ⟨e, mem, same⟩
    · obtain rfl := List.mem_singleton.mp mem
      exact .inl same.symm

/-- What is found wrong with an id is what is to be reported. -/
theorem Tracks.idReported (h : Tracks seen earlier) (q : Query) :
    q.IdReported earlier (idIssues seen q.trimmedId) := by
  unfold idIssues
  split
  · rename_i blank
    exact .blank blank
  · rename_i named
    split
    · rename_i mem
      obtain ⟨e, mem, same⟩ := (h _).mp mem
      exact .used named mem same
    · rename_i unseen
      exact .fresh named fun e mem same => unseen ((h _).mpr ⟨e, mem, same⟩)

/-- What is found wrong with a field is what is to be reported. -/
theorem fieldReported (q : Query) :
    q.FieldReported (fieldIssues q.trimmedId (Text.trim q.field)) := by
  unfold fieldIssues
  split
  · rename_i blank
    by_cases named : q.trimmedId = ""
    · rw [if_pos named]
      exact .unnamed blank named
    · rw [if_neg named]
      exact .named blank named
  · rename_i present
    exact .present present

theorem idIssues_eq_nil_iff {id : String} : idIssues seen id = [] ↔ id ≠ "" ∧ id ∉ seen := by
  unfold idIssues
  split
  · rename_i blank
    simp [blank]
  · rename_i named
    simp [named]

theorem fieldIssues_eq_nil_iff {id field : String} : fieldIssues id field = [] ↔ field ≠ "" := by
  unfold fieldIssues
  split <;> simp_all

/-- An id is reported as repeated where it was seen before. -/
theorem count_idIssues {used : String} (named : used ≠ "") (id : String) :
    (idIssues seen id).count (.repeated used) = if id = used ∧ used ∈ seen then 1 else 0 := by
  unfold idIssues
  split
  · rename_i blank
    have other : ¬ (id = used ∧ used ∈ seen) := fun h => named (h.1.symm.trans blank)
    simp [other]
  · split
    · rename_i mem
      by_cases same : id = used
      · subst same
        simp [mem]
      · simp [same]
    · rename_i unseen
      have other : ¬ (id = used ∧ used ∈ seen) := fun h => unseen (h.1 ▸ h.2)
      simp [other]

theorem count_fieldIssues (used id field : String) :
    (fieldIssues id field).count (.repeated used) = 0 := by
  unfold fieldIssues
  split <;> simp

end Step

/-! ### All queries -/

/-- The issues of queries are what is reported about each of them behind the earlier ones, in the
order of the queries. -/
theorem issuesAfter_reports {seen : List String} {earlier : List Query} (h : Tracks seen earlier)
    (qs : List Query) :
    ∃ reports : List (List Issue), issuesAfter seen qs = reports.flatten ∧
      reports.length = qs.length ∧ ∀ (i : Nat) (q : Query), qs[i]? = some q →
        ∃ report, reports[i]? = some report ∧ q.Reported (earlier ++ qs.take i) report := by
  induction qs generalizing seen earlier with
  | nil =>
    refine ⟨[], rfl, rfl, ?_⟩
    intro i q hi
    cases hi
  | cons q qs ih =>
    obtain ⟨reports, issues, length, reported⟩ := ih (h.cons q)
    let first := idIssues seen q.trimmedId ++ fieldIssues q.trimmedId (Text.trim q.field)
    refine ⟨first :: reports, ?_, ?_, ?_⟩
    · rw [issuesAfter_cons, issues, List.flatten_cons]
    · rw [List.length_cons, length, List.length_cons]
    · intro i other hi
      cases i with
      | zero =>
        cases hi
        refine ⟨first, rfl, _, _, rfl, ?_, fieldReported q⟩
        rw [List.take_zero, List.append_nil]
        exact h.idReported q
      | succ i =>
        obtain ⟨report, hr, spec⟩ := reported i other hi
        rw [List.append_assoc, List.singleton_append] at spec
        exact ⟨report, hr, spec⟩

/-- Queries have no issues exactly when nothing is blank, no id was seen before, and none is used
twice. -/
theorem issuesAfter_eq_nil_iff {seen : List String} {qs : List Query} :
    issuesAfter seen qs = [] ↔
      (∀ q ∈ qs, q.trimmedId ≠ "" ∧ Text.trim q.field ≠ "" ∧ q.trimmedId ∉ seen) ∧
        (qs.map Query.trimmedId).Nodup := by
  induction qs generalizing seen with
  | nil => simp [issuesAfter]
  | cons q qs ih =>
    rw [issuesAfter_cons, List.append_eq_nil_iff, List.append_eq_nil_iff, idIssues_eq_nil_iff,
      fieldIssues_eq_nil_iff, ih, List.map_cons, List.nodup_cons, List.forall_mem_cons]
    simp only [List.mem_cons, not_or, List.mem_map, not_exists, not_and]
    constructor
    · rintro ⟨⟨⟨named, unseen⟩, present⟩, others, distinct⟩
      refine ⟨⟨⟨named, present, unseen⟩, ?_⟩, ?_, distinct⟩
      · intro e mem
        exact ⟨(others e mem).1, (others e mem).2.1, (others e mem).2.2.2⟩
      · intro e mem
        exact (others e mem).2.2.1
    · rintro ⟨⟨⟨named, present, unseen⟩, others⟩, fresh, distinct⟩
      refine ⟨⟨⟨named, unseen⟩, present⟩, ?_, distinct⟩
      intro e mem
      exact ⟨(others e mem).1, (others e mem).2.1, fresh e mem, (others e mem).2.2⟩

/-- Every use of an id is reported once, except for the first one when the id was not seen
before. -/
theorem count_issuesAfter {used : String} (named : used ≠ "") (seen : List String)
    (qs : List Query) :
    (issuesAfter seen qs).count (.repeated used) =
      (qs.map Query.trimmedId).count used - if used ∈ seen then 0 else 1 := by
  induction qs generalizing seen with
  | nil => simp [issuesAfter]
  | cons q qs ih =>
    rw [issuesAfter_cons, List.count_append, List.count_append, count_idIssues named,
      count_fieldIssues, ih, List.map_cons, List.count_cons]
    by_cases same : q.trimmedId = used
    · -- from here on the id is seen, so that all later uses are reported
      by_cases mem : used ∈ seen
      · simp [same, mem, Nat.add_comm]
      · simp [same, mem]
    · simp [same, Ne.symm same]

theorem issues_of_queries {f : QueryFile} (h : f.queries ≠ []) :
    f.issues = issuesAfter [] f.queries := by
  rw [issues, if_neg (by simpa using h)]

theorem issues_of_no_queries {f : QueryFile} (h : f.queries = []) : f.issues = [.noQueries] := by
  rw [issues, h]
  rfl

/-- A file is valid exactly when it has a query, nothing in its queries is blank, and no id is used
twice. -/
theorem issues_eq_nil_iff {f : QueryFile} :
    f.issues = [] ↔ f.queries ≠ [] ∧
      (∀ q ∈ f.queries, q.trimmedId ≠ "" ∧ Text.trim q.field ≠ "") ∧
        (f.queries.map Query.trimmedId).Nodup := by
  by_cases none : f.queries = []
  · rw [issues_of_no_queries none]
    simp [none]
  · rw [issues_of_queries none, issuesAfter_eq_nil_iff]
    simp [none]

/-- Distinct trimmed ids are distinct ids. -/
theorem nodup_ids {qs : List Query} (h : (qs.map Query.trimmedId).Nodup) :
    (qs.map Query.id).Nodup := by
  refine List.Nodup.of_map Text.trim ?_
  rw [List.map_map]
  exact h

/-- Only files without issues are read. -/
theorem issues_of_readText {text : String} {f : QueryFile} (h : readText text = .ok f) :
    f.issues = [] := by
  unfold readText at h
  split at h
  · cases h
  · split at h
    · rename_i none
      cases h
      exact none
    · cases h

/-- **Validation reports every issue.** A query file is valid exactly when it has a query, every id
and every field is more than white space, and the trimmed ids are distinct. A file without queries
has that one issue; the issues of any other are those of its queries, in order, each judged against
the queries before it. So of the uses of an id all but one are reported. And the results of a file
that was read, on whatever tree, are there, in the order of its queries, under distinct ids. -/
theorem issues_exact (f : QueryFile) :
    (f.issues = [] ↔ f.queries ≠ [] ∧
      (∀ q ∈ f.queries, q.trimmedId ≠ "" ∧ Text.trim q.field ≠ "") ∧
        (f.queries.map Query.trimmedId).Nodup) ∧
    (f.queries = [] → f.issues = [.noQueries]) ∧
    (f.queries ≠ [] → ∃ reports : List (List Issue), f.issues = reports.flatten ∧
      reports.length = f.queries.length ∧ ∀ (i : Nat) (q : Query), f.queries[i]? = some q →
        ∃ report, reports[i]? = some report ∧ q.Reported (f.queries.take i) report) ∧
    (∀ id, id ≠ "" → f.issues.count (.repeated id) =
      (f.queries.map Query.trimmedId).count id - 1) ∧
    (∀ text root, readText text = .ok f →
      Query.runAll f.queries root ≠ [] ∧
        (Query.runAll f.queries root).map Prod.fst = f.queries.map Query.id ∧
        ((Query.runAll f.queries root).map Prod.fst).Nodup) := by
  refine ⟨issues_eq_nil_iff, issues_of_no_queries, ?_, ?_, ?_⟩
  · intro some
    have start : Tracks [] [] := by
      intro id
      simp
    rw [issues_of_queries some]
    exact issuesAfter_reports start f.queries
  · intro id named
    by_cases none : f.queries = []
    · rw [issues_of_no_queries none, none]
      rfl
    · rw [issues_of_queries none, count_issuesAfter named]
      simp
  · intro text root read
    obtain ⟨some, -, distinct⟩ := issues_eq_nil_iff.mp (issues_of_readText read)
    have ids : (Query.runAll f.queries root).map Prod.fst = f.queries.map Query.id := by
      rw [Query.runAll, List.map_map]
      rfl
    refine ⟨?_, ids, ?_⟩
    · intro none
      exact some (List.map_eq_nil_iff.mp none)
    · rw [ids]
      exact nodup_ids distinct

/-- A padded use of an id counts as one, and a query may have two issues. -/
example : issues ⟨"", none, [⟨"a", [], "body"⟩, ⟨" a", [], " "⟩, ⟨"", [], "name"⟩]⟩ =
    [.repeated "a", .missing (some "a") "field", .missing none "id"] := by
  decide

end QueryFile

end RubyTree
