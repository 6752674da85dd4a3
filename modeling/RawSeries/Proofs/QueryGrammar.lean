import RawSeries.Proofs.TaskRuns
import RawSeries.Proofs.TextParts
import RawSeries.Query.Grammar

/-!
Queries are read from exactly the words of a grammar, and they hold what the words say. All other
words are refused.
-/

namespace RawSeries

namespace Aggregator

theorem ofWord?_eq_some_iff {word : String} {a : Aggregator} :
    ofWord? word = some a ↔ word = a.word := by
  constructor
  · intro h
    have hword := List.find?_some h
    exact (eq_of_beq hword).symm
  · rintro rfl
    cases a <;> decide

theorem ofWord?_eq_none_iff {word : String} :
    ofWord? word = none ↔ ∀ a : Aggregator, word ≠ a.word := by
  rw [Option.eq_none_iff_forall_not_mem]
  simp [ofWord?_eq_some_iff]

theorem isTag_word (a : Aggregator) : Clause.isTag a.word = false := by
  cases a <;> decide

end Aggregator

namespace Clause

/-- The word `rate`, or none. -/
inductive SpellsRate : Bool → List String → Prop
  | yes : SpellsRate true ["rate"]
  | no : SpellsRate false []

/-- The words of a downsampling, or none. -/
inductive SpellsDownsample : Option Downsample → List String → Prop
  | some {interval : String} {seconds : Nat} {a : Aggregator}
      (hinterval : Duration.seconds interval = .ok seconds) :
      SpellsDownsample (some ⟨seconds, a⟩) ["downsample", interval, a.word]
  | none : SpellsDownsample none []

/-- The words of a clause. A metric with the name of a word that may stand before it stands behind
such a word. -/
inductive Spells : Clause → List String → Prop
  | intro {a : Aggregator} {rate : Bool} {downsample : Option Downsample} {metric : String}
      {tags rateWords downsampleWords : List String} (hrate : SpellsRate rate rateWords)
      (hdownsample : SpellsDownsample downsample downsampleWords)
      (hmetric : metric = "rate" → rate = true ∨ downsample.isSome = true)
      (hmetric' : metric = "downsample" → downsample.isSome = true)
      (htags : ∀ tag ∈ tags, '=' ∈ tag.toList) :
      Spells ⟨a, rate, downsample, metric, tags⟩
        (a.word :: (rateWords ++ (downsampleWords ++ metric :: tags)))

theorem Spells.head {c : Clause} {words : List String} (h : c.Spells words) :
    ∃ more, words = c.aggregator.word :: more := by
  cases h
  exact ⟨_, rfl⟩

theorem take_eq_ok_iff {what word : String} {words rest : List String} :
    take what words = .ok (word, rest) ↔ words = word :: rest := by
  cases words <;> simp [take]

theorem aggregatorOf_eq_ok_iff {word : String} {a : Aggregator} :
    aggregatorOf word = .ok a ↔ word = a.word := by
  rw [← Aggregator.ofWord?_eq_some_iff]
  unfold aggregatorOf
  cases Aggregator.ofWord? word <;> simp

theorem takeRate_eq_ok_iff {words rest : List String} {rate : Bool} :
    takeRate words = .ok (rate, rest) ↔
      ∃ own, SpellsRate rate own ∧ words = own ++ rest ∧
        (rate = false → ∃ word more, rest = word :: more ∧ word ≠ "rate") := by
  simp only [takeRate, bind_eq_ok_iff, Prod.exists, take_eq_ok_iff]
  constructor
  · rintro ⟨word, more, rfl, h⟩
    split at h
    · rename_i hword
      cases h
      exact ⟨_, .yes, by rw [hword]; rfl, nofun⟩
    · rename_i hword
      cases h
      exact ⟨_, .no, rfl, fun _ => ⟨word, more, rfl, hword⟩⟩
  · rintro ⟨own, hspells, rfl, hnext⟩
    cases hspells with
    | yes => exact ⟨_, _, rfl, rfl⟩
    | no =>
        obtain ⟨word, more, rfl, hword⟩ := hnext rfl
        exact ⟨word, more, rfl, by rw [if_neg hword]; rfl⟩

theorem takeDownsample_eq_ok_iff {words rest : List String} {downsample : Option Downsample} :
    takeDownsample words = .ok (downsample, rest) ↔
      ∃ own, SpellsDownsample downsample own ∧ words = own ++ rest ∧
        (downsample = none → ∃ word more, rest = word :: more ∧ word ≠ "downsample") := by
  simp only [takeDownsample, bind_eq_ok_iff, Prod.exists, take_eq_ok_iff]
  constructor
  · rintro ⟨word, more, rfl, h⟩
    split at h
    · rename_i hword
      simp only [bind_eq_ok_iff, Prod.exists, take_eq_ok_iff, aggregatorOf_eq_ok_iff] at h
      obtain ⟨interval, _, rfl, seconds, hseconds, _, _, rfl, a, rfl, h⟩ := h
      cases h
      exact ⟨_, .some hseconds, by rw [hword]; rfl, nofun⟩
    · rename_i hword
      cases h
      exact ⟨_, .none, rfl, fun _ => ⟨word, more, rfl, hword⟩⟩
  · rintro ⟨own, hspells, rfl, hnext⟩
    cases hspells with
    | @some interval seconds a hinterval =>
        refine ⟨_, _, rfl, ?_⟩
        simp only [if_true, bind_eq_ok_iff, Prod.exists, take_eq_ok_iff, aggregatorOf_eq_ok_iff]
        exact ⟨_, _, rfl, seconds, hinterval, _, _, rfl, a, rfl, rfl⟩
    | none =>
        obtain ⟨word, more, rfl, hword⟩ := hnext rfl
        exact ⟨word, more, rfl, by rw [if_neg hword]; rfl⟩

theorem isTag_iff {word : String} : isTag word = true ↔ '=' ∈ word.toList :=
  List.contains_iff_mem

theorem span_isTag {tags rest : List String} (htags : ∀ tag ∈ tags, isTag tag = true)
    (hrest : ∀ word ∈ rest.head?, isTag word = false) :
    (tags ++ rest).takeWhile isTag = tags ∧ (tags ++ rest).dropWhile isTag = rest := by
  rw [List.takeWhile_append_of_pos htags, List.dropWhile_append_of_pos htags]
  cases rest with
  | nil => simp
  | cons word rest => simp [hrest word rfl]

theorem read_eq_ok_iff {words rest : List String} {c : Clause} :
    read words = .ok (c, rest) ↔
      ∃ own, c.Spells own ∧ words = own ++ rest ∧ ∀ word ∈ rest.head?, isTag word = false := by
  simp only [read, bind_eq_ok_iff, Prod.exists, take_eq_ok_iff, aggregatorOf_eq_ok_iff,
    takeRate_eq_ok_iff, takeDownsample_eq_ok_iff]
  constructor
  · rintro ⟨_, words, rfl, a, rfl, rate, words, ⟨_, hrate, rfl, hword⟩, downsample, words,
      ⟨_, hdownsample, rfl, hword'⟩, metric, words, rfl, h⟩
    cases h
    refine ⟨_, .intro hrate hdownsample ?_ ?_ ?_, ?_, ?_⟩
    · rintro rfl
      cases rate with
      | true => exact .inl rfl
      | false =>
          obtain ⟨first, more, hfirst, hne⟩ := hword rfl
          cases hdownsample with
          | some => exact .inr rfl
          | none =>
              cases hfirst
              exact absurd rfl hne
    · rintro rfl
      cases downsample with
      | some => rfl
      | none =>
          obtain ⟨first, more, hfirst, hne⟩ := hword' rfl
          cases hfirst
          exact absurd rfl hne
    · intro tag htag
      exact isTag_iff.mp (List.all_eq_true.mp List.all_takeWhile tag htag)
    · simp
    · intro word hmem
      have hnot := List.head?_dropWhile_not isTag words
      rwa [Option.mem_def.mp hmem] at hnot
  · rintro ⟨_, @⟨a, rate, downsample, metric, tags, _, _, hrate, hdownsample, hmetric, hmetric',
      htags⟩, rfl, hrest⟩
    refine ⟨_, _, rfl, _, rfl, _, _, ⟨_, hrate, List.append_assoc .., ?_⟩, _, _,
      ⟨_, hdownsample, List.append_assoc .., ?_⟩, metric, tags ++ rest, rfl, ?_⟩
    · rintro rfl
      cases hdownsample with
      | some => exact ⟨_, _, rfl, by decide⟩
      | none =>
          refine ⟨_, _, rfl, ?_⟩
          rintro rfl
          simpa using hmetric rfl
    · rintro rfl
      refine ⟨_, _, rfl, ?_⟩
      rintro rfl
      simpa using hmetric' rfl
    · obtain ⟨htake, hdrop⟩ := span_isTag (fun tag htag => isTag_iff.mpr (htags tag htag)) hrest
      rw [htake, hdrop]
      rfl

end Clause

namespace Query

variable {σ : Type}

section Grammar

variable (d : Directory (Task σ))

/-- A word is read as a filter when its tag key and then its values are looked up. -/
inductive FilterReads : σ → String → TagFilter → σ → Prop
  | any {s s' : σ} {key : List Char} {uid : Bytes} (hkey : key ≠ []) (hequals : '=' ∉ key)
      (huid : (d.id .tagKey (String.ofList key)).run.run s = (.ok uid, s')) :
      FilterReads s (String.ofList (key ++ ['=', '*'])) ⟨String.ofList key, uid, none⟩ s'
  | values {s s₁ s' : σ} {key : List Char} {values : List (List Char)} {uid : Bytes}
      {uids : List Bytes} (hkey : key ≠ []) (hequals : '=' ∉ key) (hsome : values ≠ [])
      (hbars : ∀ value ∈ values, '|' ∉ value) (hempty : values ≠ [[]]) (hstar : values ≠ [['*']])
      (huid : (d.id .tagKey (String.ofList key)).run.run s = (.ok uid, s₁))
      (huids : Threads (fun s value uid s' =>
        (d.id .tagValue (String.ofList value)).run.run s = (.ok uid, s')) s₁ values uids s') :
      FilterReads s (String.ofList (key ++ '=' :: ['|'].intercalate values))
        ⟨String.ofList key, uid, some uids⟩ s'

variable (l : Layout) (start stop : Int)

/-- The words of a clause are read as a query when the tags and then the metric are looked up. -/
inductive ClauseReads : σ → List String → Query → σ → Prop
  | intro {s s₁ s' : σ} {c : Clause} {words : List String} {filters : List TagFilter} {uid : Bytes}
      (hspells : c.Spells words) (hfilters : Threads (FilterReads d) s c.tags filters s₁)
      (huid : (d.id .metric c.metric).run.run s₁ = (.ok uid, s')) :
      ClauseReads s words
        ⟨c.metric, uid, start, stop, c.aggregator, c.rate, c.downsample, filters, l⟩ s'

variable (now : Quantity)

/-- Words are read as queries: a start, an end unless the present is the end, and the words of at
least one clause. A word behind the start that is no aggregator is the end. -/
inductive Reads : σ → List String → List Query → σ → Prop
  | between {s s' : σ} {first last : String} {start stop : Int} {clauses : List (List String)}
      {queries : List Query} (hstart : Instant.read now first = .ok start)
      (hlast : ∀ a : Aggregator, last ≠ a.word) (hstop : Instant.read now last = .ok stop)
      (horder : start ≤ stop) (hsome : clauses ≠ [])
      (hclauses : Threads (ClauseReads d l start stop) s clauses queries s') :
      Reads s (first :: last :: clauses.flatten) queries s'
  | untilNow {s s' : σ} {first : String} {start stop : Int} {clauses : List (List String)}
      {queries : List Query} (hstart : Instant.read now first = .ok start)
      (hstop : now.truncated = .ok stop) (horder : start ≤ stop) (hsome : clauses ≠ [])
      (hclauses : Threads (ClauseReads d l start stop) s clauses queries s') :
      Reads s (first :: clauses.flatten) queries s'

end Grammar

variable {d : Directory (Task σ)} {l : Layout} {start stop : Int} {s s' : σ}

theorem orFail_eq_ok_iff {α : Type} {x : Except Fault α} {a : α} :
    (orFail x : Task σ α).run.run s = (.ok a, s') ↔ x = .ok a ∧ s' = s := by
  cases x with
  | error f => exact ⟨nofun, nofun⟩
  | ok b =>
      rw [orFail, Task.pure_eq_ok_iff, eq_comm (a := a)]
      simp

theorem readFilter_eq_ok_iff {word : String} {f : TagFilter} :
    (readFilter d word).run.run s = (.ok f, s') ↔ FilterReads d s word f s' := by
  constructor
  · intro h
    unfold readFilter at h
    split at h
    · rename_i k ks v vs hcut
      obtain ⟨hword, hequals⟩ := Text.cutAt?_eq_some_iff.mp hcut
      rw [← String.ofList_toList (s := word), hword]
      obtain ⟨uid, s₁, huid, h⟩ := Task.bind_eq_ok_iff.mp h
      split at h
      · rename_i hstar
        obtain ⟨rfl, rfl⟩ := Task.pure_eq_ok_iff.mp h
        rw [hstar]
        exact .any (by simp) hequals huid
      · rename_i hstar
        obtain ⟨uids, s₂, huids, h⟩ := Task.bind_eq_ok_iff.mp h
        obtain ⟨rfl, rfl⟩ := Task.pure_eq_ok_iff.mp h
        obtain ⟨hjoin, hsome, hbars⟩ := Text.splitOn_eq_iff.mp (Eq.refl (Text.splitOn '|' (v :: vs)))
        rw [hjoin]
        refine .values (by simp) hequals hsome hbars ?_ ?_ huid (Task.mapM_eq_ok_iff.mp huids)
        · intro hempty
          rw [hempty] at hjoin
          cases hjoin
        · intro hone
          rw [hone] at hjoin
          exact hstar hjoin
    · cases h
  · intro h
    cases h with
    | @any _ key uid hkey hequals huid =>
        obtain ⟨k, ks, rfl⟩ := List.exists_cons_of_ne_nil hkey
        have hcut : Text.cutAt? '=' (String.ofList (k :: ks ++ ['=', '*'])).toList =
            some (k :: ks, ['*']) := by
          rw [String.toList_ofList]
          exact Text.cutAt?_append hequals ['*']
        simp only [readFilter, hcut]
        rw [Task.bind_of_ok huid]
        rfl
    | @values _ s₁ key values uid uids hkey hequals hsome hbars hempty hstar huid huids =>
        obtain ⟨k, ks, rfl⟩ := List.exists_cons_of_ne_nil hkey
        have hsplit := Text.splitOn_eq_iff.mpr ⟨rfl, hsome, hbars⟩
        obtain ⟨v, vs, hrest⟩ : ∃ v vs, ['|'].intercalate values = v :: vs := by
          apply List.exists_cons_of_ne_nil
          intro hnil
          rw [hnil] at hsplit
          exact hempty hsplit.symm
        rw [hrest] at hsplit ⊢
        have hcut : Text.cutAt? '=' (String.ofList (k :: ks ++ '=' :: v :: vs)).toList =
            some (k :: ks, v :: vs) := by
          rw [String.toList_ofList]
          exact Text.cutAt?_append hequals (v :: vs)
        have hone : ¬v :: vs = ['*'] := by
          intro hone
          rw [hone] at hsplit
          exact hstar hsplit.symm
        simp only [readFilter, hcut]
        rw [Task.bind_of_ok huid, if_neg hone, hsplit, Task.bind_of_ok (Task.mapM_eq_ok_iff.mpr huids)]
        rfl

theorem ofClause_eq_ok_iff {c : Clause} {q : Query} :
    (ofClause d l start stop c).run.run s = (.ok q, s') ↔
      ∃ filters s₁ uid, Threads (FilterReads d) s c.tags filters s₁ ∧
        (d.id .metric c.metric).run.run s₁ = (.ok uid, s') ∧
        q = ⟨c.metric, uid, start, stop, c.aggregator, c.rate, c.downsample, filters, l⟩ := by
  have hfilters : ∀ filters s₁, (c.tags.mapM (readFilter d)).run.run s = (.ok filters, s₁) ↔
      Threads (FilterReads d) s c.tags filters s₁ := by
    intro filters s₁
    rw [Task.mapM_eq_ok_iff]
    simp only [readFilter_eq_ok_iff]
  simp only [ofClause, Task.bind_eq_ok_iff, Task.pure_eq_ok_iff, hfilters]
  constructor
  · rintro ⟨filters, s₁, hlooks, uid, s₂, huid, rfl, rfl⟩
    exact ⟨filters, s₁, uid, hlooks, huid, rfl⟩
  · rintro ⟨filters, s₁, uid, hlooks, huid, rfl⟩
    exact ⟨filters, s₁, hlooks, uid, s', huid, rfl, rfl⟩

theorem ClauseReads.head {words : List String} {q : Query}
    (h : ClauseReads d l start stop s words q s') :
    ∃ more, words = q.aggregator.word :: more := by
  cases h with
  | intro hspells => exact hspells.head

theorem head_of_clauses {clauses : List (List String)} {queries : List Query}
    (h : Threads (ClauseReads d l start stop) s clauses queries s') :
    ∀ word ∈ clauses.flatten.head?, ∃ a : Aggregator, word = a.word := by
  cases h with
  | nil => simp
  | cons head tail =>
      obtain ⟨more, rfl⟩ := head.head
      intro word hword
      cases hword
      exact ⟨_, rfl⟩

theorem readClauses_nil_eq_ok_iff {steps : Nat} {queries : List Query} :
    (readClauses d l start stop steps []).run.run s = (.ok queries, s') ↔
      ∃ clauses, [] = clauses.flatten ∧
        Threads (ClauseReads d l start stop) s clauses queries s' := by
  rw [readClauses, Task.pure_eq_ok_iff]
  constructor
  · rintro ⟨rfl, rfl⟩
    exact ⟨[], rfl, .nil⟩
  · rintro ⟨clauses, hnil, hclauses⟩
    cases hclauses with
    | nil => exact ⟨rfl, rfl⟩
    | cons head tail =>
        obtain ⟨more, rfl⟩ := head.head
        cases hnil

theorem readClauses_eq_ok_iff {steps : Nat} {words : List String} (hsteps : words.length ≤ steps)
    {queries : List Query} :
    (readClauses d l start stop steps words).run.run s = (.ok queries, s') ↔
      ∃ clauses, words = clauses.flatten ∧
        Threads (ClauseReads d l start stop) s clauses queries s' := by
  -- Every clause takes its aggregator at least, so that each step leaves fewer words.
  induction steps generalizing s words queries with
  | zero =>
      obtain rfl := List.length_eq_zero_iff.mp (Nat.le_zero.mp hsteps)
      exact readClauses_nil_eq_ok_iff
  | succ steps ih =>
      rcases words with _ | ⟨word, words⟩
      · exact readClauses_nil_eq_ok_iff
      simp only [readClauses, Task.bind_eq_ok_iff, Prod.exists, orFail_eq_ok_iff,
        Clause.read_eq_ok_iff, ofClause_eq_ok_iff, Task.pure_eq_ok_iff]
      constructor
      · rintro ⟨c, rest, _, ⟨⟨own, hspells, hwords, -⟩, rfl⟩, q, s₂,
          ⟨filters, s₁, uid, hfilters, huid, rfl⟩, queries, s₃, hqueries, rfl, rfl⟩
        obtain ⟨more, rfl⟩ := hspells.head
        have hrest : rest.length ≤ steps := by
          have hlength := congrArg List.length hwords
          simp only [List.length_cons, List.length_append] at hlength hsteps
          omega
        obtain ⟨clauses, rfl, hclauses⟩ := (ih hrest).mp hqueries
        exact ⟨_ :: clauses, hwords, .cons (.intro hspells hfilters huid) hclauses⟩
      · rintro ⟨clauses, hwords, hclauses⟩
        cases hclauses with
        | nil => cases hwords
        | @cons _ s₂ _ own q clauses queries head tail =>
            obtain ⟨more, hown⟩ := head.head
            have hrest : clauses.flatten.length ≤ steps := by
              have hlength := congrArg List.length hwords
              simp only [hown, List.flatten_cons, List.length_cons, List.length_append]
                at hlength hsteps
              omega
            cases head with
            | intro hspells hfilters huid =>
                refine ⟨_, clauses.flatten, s, ⟨⟨own, hspells, hwords, ?_⟩, rfl⟩, _, s₂,
                  ⟨_, _, _, hfilters, huid, rfl⟩, queries, s',
                  (ih hrest).mpr ⟨clauses, rfl, tail⟩, rfl, rfl⟩
                intro word hword
                obtain ⟨a, rfl⟩ := head_of_clauses tail word hword
                exact a.isTag_word

theorem readStop_eq_ok_iff {now : Quantity} {words rest : List String} :
    readStop now words = .ok (stop, rest) ↔
      (∃ last, words = last :: rest ∧ (∀ a : Aggregator, last ≠ a.word) ∧
        Instant.read now last = .ok stop) ∨
      (words = rest ∧ now.truncated = .ok stop ∧
        ∀ word ∈ words.head?, ∃ a : Aggregator, word = a.word) := by
  have hpresent : (now.truncated.mapError Fault.number).map (fun stop => (stop, words)) =
      .ok (stop, rest) ↔ words = rest ∧ now.truncated = .ok stop := by
    constructor
    · intro h
      cases hnow : now.truncated with
      | error flaw =>
          rw [hnow] at h
          cases h
      | ok n =>
          rw [hnow] at h
          cases h
          exact ⟨rfl, rfl⟩
    · rintro ⟨rfl, hnow⟩
      rw [hnow]
      rfl
  cases words with
  | nil => simpa [readStop] using hpresent
  | cons word words =>
      have hread : readStop now (word :: words) =
          if (Aggregator.ofWord? word).isNone then
            (Instant.read now word).map fun stop => (stop, words)
          else (now.truncated.mapError Fault.number).map fun stop => (stop, word :: words) := rfl
      cases hword : Aggregator.ofWord? word with
      | none =>
          have hnone := Aggregator.ofWord?_eq_none_iff.mp hword
          rw [hread, hword, if_pos Option.isNone_none]
          constructor
          · intro h
            cases hstop : Instant.read now word with
            | error f =>
                rw [hstop] at h
                cases h
            | ok n =>
                rw [hstop] at h
                cases h
                exact .inl ⟨word, rfl, hnone, hstop⟩
          · rintro (⟨last, hwords, -, hstop⟩ | ⟨-, -, hhead⟩)
            · cases hwords
              rw [hstop]
              rfl
            · obtain ⟨a, ha⟩ := hhead word rfl
              exact absurd ha (hnone a)
      | some a =>
          have hsome := Aggregator.ofWord?_eq_some_iff.mp hword
          rw [hread, hword, if_neg (by simp), hpresent]
          constructor
          · rintro ⟨rfl, hnow⟩
            exact .inr ⟨rfl, hnow, by simpa using ⟨a, hsome⟩⟩
          · rintro (⟨last, hwords, hne, -⟩ | ⟨rfl, hnow, -⟩)
            · cases hwords
              exact absurd hsome (hne a)
            · exact ⟨rfl, hnow⟩

theorem flatten_ne_nil_of_clauses {clauses : List (List String)} {queries : List Query}
    (h : Threads (ClauseReads d l start stop) s clauses queries s') (hsome : clauses ≠ []) :
    clauses.flatten ≠ [] := by
  cases h with
  | nil => exact absurd rfl hsome
  | cons head tail =>
      obtain ⟨more, rfl⟩ := head.head
      simp

theorem readBetween_eq_ok_iff {words : List String} {queries : List Query} :
    (if stop < start then throwThe Fault (.query (.reversed stop start))
      else if words.isEmpty then throwThe Fault (.query .noQuery)
      else readClauses d l start stop words.length words : Task σ (List Query)).run.run s =
        (.ok queries, s') ↔
      start ≤ stop ∧ ∃ clauses, clauses ≠ [] ∧ words = clauses.flatten ∧
        Threads (ClauseReads d l start stop) s clauses queries s' := by
  by_cases horder : stop < start
  · rw [if_pos horder]
    constructor
    · nofun
    · rintro ⟨hle, -⟩
      omega
  · rw [if_neg horder]
    by_cases hempty : words = []
    · rw [hempty, if_pos List.isEmpty_nil]
      constructor
      · nofun
      · rintro ⟨-, clauses, hsome, hwords, hclauses⟩
        exact absurd hwords.symm (flatten_ne_nil_of_clauses hclauses hsome)
    · rw [if_neg (by simpa using hempty), readClauses_eq_ok_iff (Nat.le_refl _)]
      constructor
      · rintro ⟨clauses, rfl, hclauses⟩
        refine ⟨by omega, clauses, ?_, rfl, hclauses⟩
        rintro rfl
        exact hempty rfl
      · rintro ⟨-, clauses, -, hwords, hclauses⟩
        exact ⟨clauses, hwords, hclauses⟩

theorem read_eq_ok_iff {now : Quantity} {words : List String} {queries : List Query} :
    (read d l now words).run.run s = (.ok queries, s') ↔ Reads d l now s words queries s' := by
  cases words with
  | nil => exact ⟨nofun, nofun⟩
  | cons first words =>
      simp only [read, Task.bind_eq_ok_iff, Prod.exists, orFail_eq_ok_iff, readStop_eq_ok_iff,
        readBetween_eq_ok_iff]
      constructor
      · rintro ⟨start, _, ⟨hstart, rfl⟩, stop, rest, _, ⟨hstop, rfl⟩, horder, clauses, hsome, rfl,
          hclauses⟩
        rcases hstop with ⟨last, rfl, hlast, hstop⟩ | ⟨rfl, hstop, -⟩
        · exact .between hstart hlast hstop horder hsome hclauses
        · exact .untilNow hstart hstop horder hsome hclauses
      · intro h
        cases h with
        | between hstart hlast hstop horder hsome hclauses =>
            exact ⟨_, s, ⟨hstart, rfl⟩, _, _, s, ⟨.inl ⟨_, rfl, hlast, hstop⟩, rfl⟩, horder, _,
              hsome, rfl, hclauses⟩
        | untilNow hstart hstop horder hsome hclauses =>
            exact ⟨_, s, ⟨hstart, rfl⟩, _, _, s,
              ⟨.inr ⟨rfl, hstop, head_of_clauses hclauses⟩, rfl⟩, horder, _, hsome, rfl, hclauses⟩

end Query

/-- Faults of words, as opposed to those of lookups. -/
inductive Fault.OfWords : Fault → Prop
  | query (flaw : Query.Flaw) : OfWords (.query flaw)
  | number (flaw : NumberFlaw) : OfWords (.number flaw)

open Fault (OfWords)

variable {f : Fault}

theorem ofWords_of_mapError {α : Type} {x : Except NumberFlaw α}
    (h : x.mapError Fault.number = .error f) : OfWords f := by
  cases x with
  | error flaw =>
      cases h
      exact .number flaw
  | ok a => cases h

theorem ofWords_of_map {α β : Type} {x : Except Fault α} {g : α → β} (h : x.map g = .error f)
    (hx : x = .error f → OfWords f) : OfWords f := by
  cases x with
  | error f' =>
      cases h
      exact hx rfl
  | ok a => cases h

theorem Duration.ofWords_of_millis {text : String} (h : millis text = .error f) : OfWords f := by
  unfold millis at h
  dsimp only at h
  split at h
  · exact ofWords_of_map h ofWords_of_mapError
  · cases h
    exact .query _

theorem Duration.ofWords_of_seconds {text : String} (h : seconds text = .error f) : OfWords f := by
  rcases bind_eq_error_iff.mp h with hmillis | ⟨n, -, h⟩
  · exact ofWords_of_millis hmillis
  · dsimp only at h
    split at h
    · cases h
      exact .query _
    · cases h

theorem Instant.ofWords_of_read {now : Quantity} {text : String} (h : read now text = .error f) :
    OfWords f := by
  unfold read at h
  dsimp only at h
  split at h
  · exact ofWords_of_mapError h
  split at h
  · rcases bind_eq_error_iff.mp h with hmillis | ⟨n, -, h⟩
    · exact Duration.ofWords_of_millis hmillis
    · exact ofWords_of_mapError h
  split at h
  · rcases bind_eq_error_iff.mp h with hnumber | ⟨n, -, h⟩
    · exact ofWords_of_mapError hnumber
    · cases h
  split at h
  · cases h
  · cases h
    exact .query _

namespace Clause

theorem ofWords_of_take {what : String} {words : List String} (h : take what words = .error f) :
    OfWords f := by
  cases words with
  | nil =>
      cases h
      exact .query _
  | cons word words => cases h

theorem ofWords_of_aggregatorOf {word : String} (h : aggregatorOf word = .error f) :
    OfWords f := by
  unfold aggregatorOf at h
  split at h
  · cases h
  · cases h
    exact .query _

theorem ofWords_of_takeRate {words : List String} (h : takeRate words = .error f) : OfWords f := by
  rcases bind_eq_error_iff.mp h with htake | ⟨⟨word, rest⟩, -, h⟩
  · exact ofWords_of_take htake
  · cases h

theorem ofWords_of_takeDownsample {words : List String} (h : takeDownsample words = .error f) :
    OfWords f := by
  rcases bind_eq_error_iff.mp h with htake | ⟨⟨word, rest⟩, -, h⟩
  · exact ofWords_of_take htake
  dsimp only at h
  split at h
  · rcases bind_eq_error_iff.mp h with htake | ⟨⟨interval, rest⟩, -, h⟩
    · exact ofWords_of_take htake
    rcases bind_eq_error_iff.mp h with hseconds | ⟨seconds, -, h⟩
    · exact Duration.ofWords_of_seconds hseconds
    rcases bind_eq_error_iff.mp h with htake | ⟨⟨name, rest⟩, -, h⟩
    · exact ofWords_of_take htake
    rcases bind_eq_error_iff.mp h with haggregator | ⟨a, -, h⟩
    · exact ofWords_of_aggregatorOf haggregator
    · cases h
  · cases h

theorem ofWords_of_read {words : List String} (h : read words = .error f) : OfWords f := by
  rcases bind_eq_error_iff.mp h with htake | ⟨⟨word, rest⟩, -, h⟩
  · exact ofWords_of_take htake
  rcases bind_eq_error_iff.mp h with haggregator | ⟨a, -, h⟩
  · exact ofWords_of_aggregatorOf haggregator
  rcases bind_eq_error_iff.mp h with hrate | ⟨⟨rate, rest⟩, -, h⟩
  · exact ofWords_of_takeRate hrate
  rcases bind_eq_error_iff.mp h with hdownsample | ⟨⟨downsample, rest⟩, -, h⟩
  · exact ofWords_of_takeDownsample hdownsample
  rcases bind_eq_error_iff.mp h with htake | ⟨⟨metric, rest⟩, -, h⟩
  · exact ofWords_of_take htake
  · cases h

end Clause

namespace Query

variable {σ : Type} {d : Directory (Task σ)} {l : Layout} {start stop : Int} {s s' : σ}

/-- The faults that words can be refused with: their own, and those of the lookups in them. -/
inductive Refuses (d : Directory (Task σ)) : Fault → Prop
  | words {f : Fault} (h : OfWords f) : Refuses d f
  | lookup {kind : UidKind} {name : String} {s s' : σ} {f : Fault}
      (h : (d.id kind name).run.run s = (.error f, s')) : Refuses d f

theorem refuses_of_orFail {α : Type} {x : Except Fault α}
    (h : (orFail x : Task σ α).run.run s = (.error f, s')) (hx : x = .error f → OfWords f) :
    Refuses d f := by
  cases x with
  | error g =>
      cases h
      exact .words (hx rfl)
  | ok a => cases h

theorem refuses_of_readFilter {word : String}
    (h : (readFilter d word).run.run s = (.error f, s')) : Refuses d f := by
  unfold readFilter at h
  split at h
  · rcases Task.bind_eq_error_iff.mp h with hid | ⟨uid, s₁, -, h⟩
    · exact .lookup hid
    · split at h
      · cases h
      · rcases Task.bind_eq_error_iff.mp h with hvalues | ⟨uids, s₂, -, h⟩
        · obtain ⟨value, s₂, hid⟩ := Task.exists_error_of_mapM hvalues
          exact .lookup hid
        · cases h
  · cases h
    exact .words (.query _)

theorem refuses_of_ofClause {c : Clause}
    (h : (ofClause d l start stop c).run.run s = (.error f, s')) : Refuses d f := by
  rcases Task.bind_eq_error_iff.mp h with hfilters | ⟨filters, s₁, -, h⟩
  · obtain ⟨word, s₁, hfilter⟩ := Task.exists_error_of_mapM hfilters
    exact refuses_of_readFilter hfilter
  · rcases Task.bind_eq_error_iff.mp h with hid | ⟨uid, s₂, -, h⟩
    · exact .lookup hid
    · cases h

theorem refuses_of_readClauses {steps : Nat} {words : List String}
    (h : (readClauses d l start stop steps words).run.run s = (.error f, s')) : Refuses d f := by
  induction steps generalizing s words with
  | zero => cases words <;> cases h
  | succ steps ih =>
      cases words with
      | nil => cases h
      | cons word words =>
          rcases Task.bind_eq_error_iff.mp h with hread | ⟨⟨c, rest⟩, s₁, -, h⟩
          · exact refuses_of_orFail hread Clause.ofWords_of_read
          rcases Task.bind_eq_error_iff.mp h with hclause | ⟨q, s₂, -, h⟩
          · exact refuses_of_ofClause hclause
          rcases Task.bind_eq_error_iff.mp h with hmore | ⟨queries, s₃, -, h⟩
          · exact ih hmore
          · cases h

theorem ofWords_of_readStop {now : Quantity} {words : List String}
    (h : readStop now words = .error f) : OfWords f := by
  unfold readStop at h
  split at h
  · split at h
    · exact ofWords_of_map h Instant.ofWords_of_read
    · exact ofWords_of_map h ofWords_of_mapError
  · exact ofWords_of_map h ofWords_of_mapError

theorem refuses_of_read {now : Quantity} {words : List String}
    (h : (read d l now words).run.run s = (.error f, s')) : Refuses d f := by
  cases words with
  | nil =>
      cases h
      exact .words (.query _)
  | cons first words =>
      rcases Task.bind_eq_error_iff.mp h with hstart | ⟨start, s₁, -, h⟩
      · exact refuses_of_orFail hstart Instant.ofWords_of_read
      rcases Task.bind_eq_error_iff.mp h with hstop | ⟨⟨stop, rest⟩, s₂, -, h⟩
      · exact refuses_of_orFail hstop ofWords_of_readStop
      dsimp only at h
      split at h
      · cases h
        exact .words (.query _)
      split at h
      · cases h
        exact .words (.query _)
      · exact refuses_of_readClauses h

/-- Words are read as queries exactly when they are words of the grammar and their names are found,
and the queries hold what the words say. All other words are refused, for what they are or because
a name in them is not found. -/
theorem read_reads_grammar (d : Directory (Task σ)) (l : Layout) (now : Quantity)
    (words : List String) (s : σ) :
    (∀ queries s', (read d l now words).run.run s = (.ok queries, s') ↔
      Reads d l now s words queries s') ∧
    ((¬∃ queries s', Reads d l now s words queries s') ↔
      ∃ f s', (read d l now words).run.run s = (.error f, s') ∧ Refuses d f) := by
  refine ⟨fun queries s' => read_eq_ok_iff, ?_⟩
  constructor
  · intro h
    rcases hread : (read d l now words).run.run s with ⟨f | queries, s'⟩
    · exact ⟨f, s', rfl, refuses_of_read hread⟩
    · exact absurd ⟨queries, s', read_eq_ok_iff.mp hread⟩ h
  · rintro ⟨f, s', hread, -⟩ ⟨queries, s₁, hreads⟩
    rw [read_eq_ok_iff.mpr hreads] at hread
    cases hread

end Query

end RawSeries
