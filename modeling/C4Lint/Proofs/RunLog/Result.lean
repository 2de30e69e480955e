/-
# What the log of a validation tells

The log is written while a document is read, and the result is there only at the end.  This file
ties the two together: the statements, the regions they were found in, the malformed ones among them
and the closing numbers can all be told from the log, and they are those of the result.

An entry leaves a few records, and they continue any log of the entries behind it
(`RunLog.Follows.cons`).  Going over all entries of a document gives `RunLog.follows_ofEntries`, from
which `RunLog.ofDocument_tells` is assembled.
-/
import Mathlib.Data.List.Chain
import C4Lint.Proofs.Issue.Severity
import C4Lint.Proofs.RunLog.Wording
import C4Lint.Proofs.Validation.Malformed

namespace C4Lint.RunLog

open LogRecord (move? region? malformed?)

/-! ### Moves and the statements between them -/

/-- Moves of which the first leaves the region `a` and each other one the region that the move
before it has entered.  A move leads to another region. -/
def Joined (a : Region) : List (Region × Region) → Prop
  | [] => True
  | (b, c) :: ms => b = a ∧ b ≠ c ∧ Joined c ms

/-- The regions of the statements in a log, by its moves alone, if the region is `a` before it. -/
def replay (a : Region) : List LogRecord → List Region
  | [] => []
  | .moved _ b :: rs => replay b rs
  | .read _ _ _ :: rs => a :: replay a rs
  | _ :: rs => replay a rs

/-- If the first of two records is a move, the second places a statement in the region entered. -/
def Announces (r s : LogRecord) : Prop := ∀ m ∈ r.move?, s.region? = some m.2

/-- The record of the statement of an entry. -/
def readingOf (e : Entry) : LogRecord := .read e.line e.region e.statement.text

/-- The record `c` is the last one of the log and its only one about the outcome. -/
def FinishedBy (c : LogRecord) (rs : List LogRecord) : Prop :=
  c.level = .info ∧ ∃ front, rs = front ++ [c] ∧ ∀ r ∈ front, r.level ≠ .info

/-- The log `rs` is one of the entries `es` behind the region `a`, up to the end `c`. -/
structure Follows (c : LogRecord) (a : Region) (es : List Entry) (rs : List LogRecord) : Prop where
  reads : rs.filter (fun r => r.level = .trace) = es.map readingOf
  joined : Joined a (rs.filterMap move?)
  replayed : replay a rs = es.map Entry.region
  announced : rs.IsChain Announces
  malformed : rs.filterMap malformed? = es.filterMap Entry.malformation?
  finished : FinishedBy c rs

lemma FinishedBy.append {c : LogRecord} {rs : List LogRecord} (h : FinishedBy c rs)
    (ps : List LogRecord) (hps : ∀ r ∈ ps, r.level ≠ .info) : FinishedBy c (ps ++ rs) := by
  obtain ⟨hlevel, front, rfl, hfront⟩ := h
  refine ⟨hlevel, ps ++ front, (List.append_assoc ..).symm, fun r hr => ?_⟩
  exact (List.mem_append.1 hr).elim (hps r) (hfront r)

/-- Records that tell neither of a statement nor of a move. -/
def Remarks (rs : List LogRecord) : Prop := ∀ r ∈ rs, r.level = .debug ∧ r.move? = none

section Remarks

variable {ps rs : List LogRecord}

lemma Remarks.filter_trace (h : Remarks ps) : ps.filter (fun r => r.level = .trace) = [] := by
  refine List.filter_eq_nil_iff.2 fun r hr => ?_
  simp [(h r hr).1]

lemma Remarks.filterMap_move? (h : Remarks ps) : ps.filterMap move? = [] :=
  List.filterMap_eq_nil_iff.2 fun r hr => (h r hr).2

lemma Remarks.replay_append (h : Remarks ps) (a : Region) :
    replay a (ps ++ rs) = replay a rs := by
  induction ps with
  | nil => rfl
  | cons r ps ih =>
    obtain ⟨hlevel, hmove⟩ := h r List.mem_cons_self
    have hrest := ih fun s hs => h s (List.mem_cons_of_mem r hs)
    cases r with
    | moved => cases hmove
    | read => cases hlevel
    | _ => exact hrest

lemma Remarks.announced_append (h : Remarks ps) (hrs : rs.IsChain Announces) :
    (ps ++ rs).IsChain Announces := by
  induction ps with
  | nil => exact hrs
  | cons r ps ih =>
    have hmove := (h r List.mem_cons_self).2
    refine List.isChain_cons.2 ⟨fun s _ m hm => ?_, ih fun s hs => h s (List.mem_cons_of_mem r hs)⟩
    rw [hmove] at hm
    cases hm

end Remarks

/-- What is made of an entry is a remark. -/
lemma remarks_outcome (known : Architecture) (e : Entry) : Remarks (outcome known e) := by
  intro r hr
  rw [outcome] at hr
  split at hr
  · rw [List.mem_singleton.1 hr]
    exact ⟨rfl, rfl⟩
  · rw [List.mem_singleton.1 hr]
    exact ⟨rfl, rfl⟩
  · split_ifs at hr
    · rw [List.mem_singleton.1 hr]
      exact ⟨rfl, rfl⟩
    · cases hr
  · cases hr

lemma filterMap_malformed?_outcome (known : Architecture) (e : Entry) :
    (outcome known e).filterMap malformed? = e.malformation?.toList := by
  rw [outcome, Entry.malformation?]
  split
  · next h => rw [h]; rfl
  · next h => rw [h]; rfl
  · next h =>
    rw [h]
    split_ifs <;> rfl
  · next hmalformed _ _ =>
    split
    · next f h => exact absurd h (hmalformed f)
    · rfl

/-! ### One entry, and all entries -/

/-- The records of an entry, before a log of the entries behind it. -/
theorem Follows.cons {c : LogRecord} {a : Region} {e : Entry} {es : List Entry}
    {rs : List LogRecord} (h : Follows c e.region es rs) (known : Architecture) :
    Follows c a (e :: es) (ofEntry a known e ++ rs) := by
  have hremarks := remarks_outcome known e
  -- behind the move, if there is one, come the record of the statement and remarks
  have hread : Follows c e.region (e :: es) (readingOf e :: (outcome known e ++ rs)) := by
    refine ⟨?_, ?_, ?_, ?_, ?_, ?_⟩
    · rw [List.filter_cons_of_pos (by rfl), List.filter_append, hremarks.filter_trace,
        List.nil_append, h.reads, List.map_cons]
    · rw [List.filterMap_cons_none rfl, List.filterMap_append, hremarks.filterMap_move?]
      exact h.joined
    · show e.region :: replay e.region (outcome known e ++ rs) = _
      rw [hremarks.replay_append, h.replayed, List.map_cons]
    · refine List.isChain_cons.2 ⟨fun s _ m hm => ?_, hremarks.announced_append h.announced⟩
      cases hm
    · rw [List.filterMap_cons_none rfl, List.filterMap_append, filterMap_malformed?_outcome,
        h.malformed, List.filterMap_cons]
      cases e.malformation? <;> rfl
    · refine h.finished.append (readingOf e :: outcome known e) fun r hr => ?_
      rcases List.mem_cons.1 hr with rfl | hr
      · simp [readingOf, LogRecord.level]
      · simp [(hremarks r hr).1]
  by_cases hmove : a = e.region
  · rw [ofEntry, if_pos hmove, hmove]
    exact hread
  · rw [ofEntry, if_neg hmove]
    refine ⟨hread.reads, ⟨rfl, hmove, hread.joined⟩, hread.replayed, ?_, hread.malformed, ?_⟩
    · refine List.isChain_cons.2 ⟨fun s hs m hm => ?_, hread.announced⟩
      obtain rfl : readingOf e = s := Option.some.inj hs
      obtain rfl : (a, e.region) = m := Option.some.inj hm
      rfl
    · exact hread.finished.append [.moved a e.region] (by simp [LogRecord.level])

/-- The records of some entries, and the end. -/
theorem follows_ofEntries (v : Validation) (a : Region) (known : Architecture)
    (es : List Entry) : Follows (summary v) a es (ofEntries a known es ++ [summary v]) := by
  induction es generalizing a known with
  | nil =>
    refine ⟨rfl, trivial, rfl, .singleton _, rfl, rfl, [], rfl, ?_⟩
    exact fun r hr => absurd hr List.not_mem_nil
  | cons e es ih =>
    rw [ofEntries, List.append_assoc]
    exact (ih e.region (known.record e)).cons known

/-- Only the records of statements place statements. -/
lemma filterMap_region?_filter (rs : List LogRecord) :
    (rs.filter fun r => r.level = .trace).filterMap region? = rs.filterMap region? := by
  rw [List.filterMap_filter]
  refine List.filterMap_congr fun r _ => ?_
  cases r <;> rfl

/-- What a log tells of the validation `v` of a document. -/
structure Tells (options : Options) (content : Text) (v : Validation) (log : List LogRecord) :
    Prop where
  /-- There is one record in detail for each statement, with its line, its region and its text. -/
  statements : log.filter (fun r => r.level = .trace)
    = List.zipWith (fun s region => .read s.line region s.text) (Statement.all content)
        (Tracker.regions options.nesting {} ((Statement.all content).map Statement.text))
  /-- The moves lead from region to region, and they begin outside. -/
  joined : Joined .outside (log.filterMap move?)
  /-- They come to the regions in which the statements are said to be. -/
  replayed : replay .outside log = log.filterMap region?
  /-- A move stands right before a statement in the region entered. -/
  announced : log.IsChain Announces
  /-- The malformed statements are those with issues about their syntax. -/
  malformed : log.filterMap malformed? = v.issues.filterMap Issue.syntaxError?
  /-- At the end, and only there, stand the numbers of what has been found. -/
  finished : FinishedBy (.finished v.architecture.elements.size v.architecture.relationships.size
    ⟨(Issue.withSeverity .error v.issues).length, (Issue.withSeverity .warning v.issues).length,
      (Issue.withSeverity .info v.issues).length⟩) log
  /-- The moves can be told by their wording. -/
  move_iff : ∀ r ∈ log, ∀ a b, r.move? = some (a, b) ↔ r.level = .debug ∧ r.message
    = "Section ".toList ++ LogRecord.regionName a ++ " -> ".toList ++ LogRecord.regionName b
  /-- So can the malformed statements. -/
  malformed_iff : ∀ r ∈ log, ∀ n f, r.malformed? = some (n, f) ↔ r.level = .debug ∧ r.message
    = "Line ".toList ++ Text.decimal n ++ ": malformed ".toList ++ LogRecord.formName f

/-- The log of the validation of a document tells of its result. -/
theorem ofDocument_tells (options : Options) (content : Text) :
    Tells options content (Validation.ofDocument options content) (ofDocument options content) := by
  have h := follows_ofEntries (Validation.ofDocument options content) .outside {}
    (Entry.all options.nesting content)
  refine ⟨?_, h.joined, ?_, h.announced, ?_, ?_, fun r _ a b => LogRecord.move?_eq_some_iff,
    fun r _ n f => LogRecord.malformed?_eq_some_iff⟩
  · rw [ofDocument, h.reads, Entry.all, Entry.ofStatements, List.map_zipWith]
    rfl
  · have hplaced : (ofDocument options content).filterMap region?
        = (Entry.all options.nesting content).map Entry.region := by
      rw [← filterMap_region?_filter, ofDocument, h.reads, List.filterMap_map]
      exact congrFun List.filterMap_eq_map' _
    rw [ofDocument, h.replayed, ← hplaced, ofDocument]
  · rw [ofDocument, h.malformed, Validation.filterMap_syntaxError?_issues]
  · rw [← Issue.tally_eq]
    exact h.finished

example :
    (ofDocument {} "model \x7b\nx -> \n\x7d\nviews \x7b\n\x7d".toList).map LogRecord.message
      = ["Section None -> Model".toList, "   1 Model: model \x7b".toList,
        "   2 Model: x ->".toList, "Line 2: malformed Relationship".toList,
        "Section Model -> None".toList, "   3 None: \x7d".toList,
        "Section None -> Views".toList, "   4 Views: views \x7b".toList,
        "Section Views -> None".toList, "   5 None: \x7d".toList,
        "Validated 0 elements, 0 relationships: 2 errors, 0 warnings, 0 info".toList] := by
  decide +kernel

end C4Lint.RunLog
