/-!
# Notices of changed controls

Hardware and interrupts change the values of some controls by themselves, and clients are told
which. A `Notice` names such a control, and a `NoticeSet` collects the ones of one operation.
They are delivered in the order of `Notice.all`, each at most once (`NoticeSet.toList`).
-/

namespace TimecodeCard

/-- A control whose value hardware or an interrupt changes. -/
inductive Notice
  /-- The time code at the input. -/
  | timeCodeIn
  | pullFactorIn
  | timeCodeValid
  | rateIn
  | dropFrameIn
  | lock
  | videoFormat
  | videoRate
  | wordClockValid
  | wordClockSpeed
  /-- Whether the time code output runs. -/
  | run
  deriving DecidableEq, Repr

/-- Every notice, in the order of delivery. -/
def Notice.all : List Notice :=
  [.timeCodeIn, .pullFactorIn, .timeCodeValid, .rateIn, .dropFrameIn, .lock, .videoFormat,
    .videoRate, .wordClockValid, .wordClockSpeed, .run]

theorem Notice.mem_all (n : Notice) : n ∈ Notice.all := by
  cases n <;> decide

/-- A set of notices. -/
structure NoticeSet where
  contains : Notice → Bool

namespace NoticeSet

/-- The set without any notice. -/
def empty : NoticeSet := ⟨fun _ => false⟩

instance : EmptyCollection NoticeSet := ⟨empty⟩

instance : Inhabited NoticeSet := ⟨empty⟩

/-- The set with the notice added. -/
def insert (s : NoticeSet) (n : Notice) : NoticeSet :=
  ⟨fun m => m = n || s.contains m⟩

/-- The set with the notice added, if the condition holds. -/
def insertIf (s : NoticeSet) (condition : Bool) (n : Notice) : NoticeSet :=
  if condition then s.insert n else s

/-- The notices of both sets. -/
def union (s t : NoticeSet) : NoticeSet :=
  ⟨fun m => s.contains m || t.contains m⟩

/-- The notices of the set, in the order of delivery. -/
def toList (s : NoticeSet) : List Notice :=
  Notice.all.filter s.contains

/-- Whether the set has no notice. -/
def isEmpty (s : NoticeSet) : Bool :=
  s.toList.isEmpty

@[simp] theorem contains_empty (m : Notice) : (∅ : NoticeSet).contains m = false := rfl

@[simp] theorem contains_insert (s : NoticeSet) (n m : Notice) :
    (s.insert n).contains m = (decide (m = n) || s.contains m) := rfl

@[simp] theorem contains_insertIf (s : NoticeSet) (condition : Bool) (n m : Notice) :
    (s.insertIf condition n).contains m
      = ((condition && decide (m = n)) || s.contains m) := by
  cases condition <;> rfl

@[simp] theorem contains_union (s t : NoticeSet) (m : Notice) :
    (s.union t).contains m = (s.contains m || t.contains m) := rfl

theorem toList_sublist (s : NoticeSet) : s.toList.Sublist Notice.all :=
  List.filter_sublist

@[simp] theorem mem_toList {s : NoticeSet} {m : Notice} : m ∈ s.toList ↔ s.contains m := by
  simp [toList, Notice.mem_all]

end NoticeSet

end TimecodeCard
