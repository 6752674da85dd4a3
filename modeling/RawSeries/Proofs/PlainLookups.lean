import RawSeries.Directory.Table
import RawSeries.Query.Grammar
import RawSeries.Row.Report
import RawSeries.Store.Table

namespace RawSeries

variable {σ α β : Type}

/-- Work that leaves the state alone and comes out as given. -/
def Task.settled (result : Except Fault α) : Task σ α :=
  ExceptT.mk (pure result)

def Directory.lift (d : Directory (Except Fault)) : Directory (Task σ) where
  name kind uid := .settled (d.name kind uid)
  id kind name := .settled (d.id kind name)
  suggest start limit := .settled (d.suggest start limit)

namespace Task

theorem settled_pure (a : α) : (settled (pure a) : Task σ α) = pure a := rfl

theorem settled_bind (result : Except Fault α) (next : α → Except Fault β) :
    (settled (result >>= next) : Task σ β) = settled result >>= fun a => settled (next a) := by
  cases result with
  | error f => rfl
  | ok a => rfl

theorem settled_tryCatch (result : Except Fault α) (next : Fault → Except Fault α) :
    (settled (tryCatchThe Fault result next) : Task σ α) =
      tryCatchThe Fault (settled result) fun f => settled (next f) := by
  cases result with
  | error f => rfl
  | ok a => rfl

theorem settled_mapM (next : α → Except Fault β) (as : List α) :
    (settled (as.mapM next) : Task σ (List β)) = as.mapM fun a => settled (next a) := by
  induction as with
  | nil => rfl
  | cons a as ih =>
      simp only [List.mapM_cons, settled_bind, ih, settled_pure]

end Task

theorem UidTable.directory_eq_lift (t : UidTable) :
    (t.directory : Directory (Task σ)) = (t.directory : Directory (Except Fault)).lift := by
  simp only [directory, Directory.lift]
  congr 1
  · funext kind uid
    cases t.name? kind uid with
    | none => rfl
    | some name => rfl
  · funext kind name
    cases t.id? kind name with
    | none => rfl
    | some uid => rfl

variable (d : Directory (Except Fault)) (l : Layout)

theorem Directory.tagNames_lift (tag : Bytes × Bytes) :
    (d.lift : Directory (Task σ)).tagNames tag = .settled (d.tagNames tag) := by
  simp only [tagNames, lift, Task.settled_bind, Task.settled_pure]

namespace Key

theorem splitOrFail_settled (key : Bytes) :
    (splitOrFail l key : Task σ Key) = .settled (splitOrFail l key) := by
  unfold splitOrFail
  cases split l key with
  | error flaw => rfl
  | ok k => rfl

theorem tagNames_lift (key : Bytes) :
    (tagNames d.lift l key : Task σ _) = .settled (tagNames d l key) := by
  unfold tagNames
  rw [Task.settled_bind, splitOrFail_settled]
  congr 1
  funext k
  rw [Task.settled_mapM]
  congr 1
  funext tag
  exact d.tagNames_lift tag

end Key

theorem Series.ofKey_lift (key : Bytes) :
    (ofKey d.lift l key : Task σ _) = .settled (ofKey d l key) := by
  simp only [ofKey, Task.settled_bind, Task.settled_pure, Key.splitOrFail_settled,
    Key.tagNames_lift]
  rfl

namespace Row

theorem orFail_settled (result : Except Fault α) :
    (orFail result : Task σ α) = .settled (orFail result) := by
  cases result with
  | error f => rfl
  | ok a => rfl

theorem locate_settled (key : Bytes) (result : Except Fault α) :
    (locate key (.settled result) : Task σ α) = .settled (locate key result) := by
  unfold locate
  rw [Task.settled_tryCatch]
  rfl

theorem tagsText_lift (key : Bytes) :
    (tagsText d.lift l key : Task σ _) = .settled (tagsText d l key) := by
  simp only [tagsText, Task.settled_tryCatch, Task.settled_bind, Task.settled_pure,
    Key.tagNames_lift]
  congr 1
  funext f
  split
  · rfl
  · rfl

theorem rawReport_lift (row : Row) :
    (rawReport d.lift l row : Task σ _) = .settled (rawReport d l row) := by
  simp only [rawReport, Task.settled_bind, Task.settled_pure, ← orFail_settled, tagsText_lift,
    ← locate_settled]
  rfl

theorem loadableReport_lift (row : Row) :
    (loadableReport d.lift l row : Task σ _) = .settled (loadableReport d l row) := by
  simp only [loadableReport, Task.settled_bind, Task.settled_pure, ← orFail_settled,
    ← locate_settled, Series.ofKey_lift]

theorem report_lift (style : Style) (row : Row) :
    (row.report style d.lift l : Task σ _) = .settled (row.report style d l) := by
  cases style with
  | raw => exact rawReport_lift d l row
  | loadable => exact loadableReport_lift d l row

end Row

namespace Query

theorem orFail_settled (result : Except Fault α) :
    (orFail result : Task σ α) = .settled (orFail result) := by
  cases result with
  | error f => rfl
  | ok a => rfl

theorem readFilter_lift (word : String) :
    (readFilter d.lift word : Task σ _) = .settled (readFilter d word) := by
  unfold readFilter
  split
  · simp only [Directory.lift, Task.settled_bind]
    congr 1
    funext uid
    split
    · rfl
    · rw [Task.settled_bind, Task.settled_mapM]
      rfl
  · rfl

theorem ofClause_lift (start stop : Int) (c : Clause) :
    (ofClause d.lift l start stop c : Task σ _) = .settled (ofClause d l start stop c) := by
  have hfilter : (readFilter d.lift : String → Task σ TagFilter) =
      fun word => .settled (readFilter d word) := funext (readFilter_lift d)
  simp only [ofClause, Task.settled_bind, Task.settled_pure, Task.settled_mapM, hfilter]
  rfl

theorem readClauses_lift (start stop : Int) (steps : Nat) (words : List String) :
    (readClauses d.lift l start stop steps words : Task σ _) =
      .settled (readClauses d l start stop steps words) := by
  induction steps generalizing words with
  | zero =>
      cases words with
      | nil => rfl
      | cons word words => rfl
  | succ steps ih =>
      cases words with
      | nil => rfl
      | cons word words =>
          simp only [readClauses, Task.settled_bind, Task.settled_pure, orFail_settled,
            ofClause_lift, ih]

theorem read_lift (now : Quantity) (words : List String) :
    (read d.lift l now words : Task σ _) = .settled (read d l now words) := by
  cases words with
  | nil => rfl
  | cons first rest =>
      simp only [read, Task.settled_bind, ← orFail_settled]
      congr 1
      funext start
      congr 1
      funext stop
      split
      · rfl
      · split
        · rfl
        · exact readClauses_lift d l start stop.1 _ _

end Query

end RawSeries
