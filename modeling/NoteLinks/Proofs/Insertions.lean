import Mathlib.Data.List.Sort
import NoteLinks.Proofs.Dictionaries
import NoteLinks.Proofs.Privacy

/-!
# What insertions make of a store

A store is filled by insertions, each of which puts a record into a tree, for everyone to see or
hidden from the reader.  One insertion changes one tree, and puts its record behind the records that
are there (`tree?_receive`); so any number of them puts the records of a tree in their order behind
those that were there (`tree?_receiveAll`).

As a request is answered by the first record with its identifier, what was found once stays as it is
(`isKeptBy_receiveAll`), and in a store that was empty at the start the first insertion that concerns
a request decides its answer (`filledBy_answersByFirst`).
-/

namespace NoteLinks

/-! ## Insertions -/

/-- A record that is put into a tree of a store, for everyone or hidden from the reader. -/
inductive Insertion where
  | visible (tree : Text) (record : Record)
  | hidden (tree : Text) (record : Record) (reason : Option Text)

namespace Insertion

def tree : Insertion → Text
  | visible tree _ => tree
  | hidden tree _ _ => tree

def record : Insertion → Record
  | visible _ record => record
  | hidden _ record _ => record

def stored : Insertion → StoredRecord
  | visible _ record => ⟨record, false, none⟩
  | hidden _ record reason => ⟨record, true, reason⟩

/-- What the insertion says to a request for its record. -/
def answer : Insertion → Except LookupError Record
  | visible _ record => .ok record
  | hidden _ _ reason => .error (.accessDenied reason)

/-- The record of the insertion is one that is asked for in a tree under an identifier. -/
def Concerns (i : Insertion) (tree xref : Text) : Prop := i.tree = tree ∧ i.record.xref = xref

instance (i : Insertion) (tree xref : Text) : Decidable (i.Concerns tree xref) :=
  inferInstanceAs (Decidable (_ ∧ _))

lemma record_stored (i : Insertion) : i.stored.record = i.record := by
  cases i <;> rfl

lemma answer_stored (i : Insertion) : i.stored.answer = i.answer := by
  cases i <;> rfl

/-- An insertion has a record to show or refuses one; it never says that there is none. -/
lemma answer_ne (i : Insertion) :
    i.answer ≠ .error .unknownTree ∧ i.answer ≠ .error .notFound := by
  cases i <;> simp [answer]

end Insertion

namespace RecordStore

variable {s : RecordStore} {is : List Insertion} {tree xref : Text}

/-- The store after an insertion. -/
def receive (s : RecordStore) : Insertion → RecordStore
  | .visible tree record => s.insert tree record
  | .hidden tree record reason => s.insertPrivate tree record reason

def receiveAll (s : RecordStore) (is : List Insertion) : RecordStore := is.foldl receive s

/-- The store that insertions make, where there was nothing before. -/
def filledBy (is : List Insertion) : RecordStore := empty.receiveAll is

lemma receive_eq_add (s : RecordStore) (i : Insertion) : s.receive i = s.add i.tree i.stored := by
  cases i <;> rfl

/-! ## Trees -/

lemma tree?_eq_lookup (s : RecordStore) (tree : Text) : s.tree? tree = s.trees.lookup tree :=
  find?_map_eq_lookup s.trees tree

/-- A record that is added stands at the end of its tree, and all other trees are as they were. -/
lemma lookup_append (t : Text) (stored : StoredRecord) (ts : List (Text × List StoredRecord)) :
    (append t stored ts).lookup tree =
      if tree = t then some ((ts.lookup tree).getD [] ++ [stored]) else ts.lookup tree := by
  induction ts with
  | nil => rw [append, lookup_cons, List.lookup_nil, Option.getD_none, List.nil_append]
  | cons e ts ih =>
    rw [append]
    by_cases he : e.1 = t
    · rw [if_pos he, lookup_cons, lookup_cons, he]
      by_cases htree : tree = t
      · simp only [if_pos htree, Option.getD_some]
      · simp only [if_neg htree]
    · rw [if_neg he, lookup_cons, lookup_cons, ih]
      by_cases htree : tree = e.1
      · rw [if_pos htree, if_pos htree, if_neg fun h => he (htree.symm.trans h)]
      · rw [if_neg htree, if_neg htree]

lemma tree?_receive (s : RecordStore) (i : Insertion) (tree : Text) :
    (s.receive i).tree? tree =
      if tree = i.tree then some ((s.tree? tree).getD [] ++ [i.stored]) else s.tree? tree := by
  rw [receive_eq_add, tree?_eq_lookup, tree?_eq_lookup]
  exact lookup_append i.tree i.stored s.trees

/-- The records that insertions put into a tree. -/
def recordsFor (tree : Text) (is : List Insertion) : List StoredRecord :=
  (is.filter (·.tree = tree)).map Insertion.stored

/-- What insertions make of a tree: its records stand behind those that were there, and a tree that
none of them names is as it was. -/
lemma tree?_receiveAll (s : RecordStore) (is : List Insertion) (tree : Text) :
    (s.receiveAll is).tree? tree =
      if ∃ i ∈ is, i.tree = tree then some ((s.tree? tree).getD [] ++ recordsFor tree is)
      else s.tree? tree := by
  induction is generalizing s with
  | nil => simp [receiveAll]
  | cons i is ih =>
    have hstep : s.receiveAll (i :: is) = (s.receive i).receiveAll is := rfl
    rw [hstep, ih, tree?_receive]
    by_cases hi : i.tree = tree
    · by_cases his : ∃ j ∈ is, j.tree = tree
      · simp [hi, his, recordsFor]
      · have hnone : recordsFor tree is = [] := by
          rw [recordsFor, List.map_eq_nil_iff, List.filter_eq_nil_iff]
          exact fun j hj => by simpa using fun h => his ⟨j, hj, h⟩
        have hcons : recordsFor tree (i :: is) = i.stored :: recordsFor tree is := by
          simp [recordsFor, hi]
        rw [if_neg his, if_pos hi.symm, if_pos ⟨i, List.mem_cons_self, hi⟩, hcons, hnone]
    · simp [hi, Ne.symm hi, recordsFor]

/-- The first record with an identifier among those that were put into a tree is the first that
concerns a request. -/
lemma find?_recordsFor (is : List Insertion) (tree xref : Text) :
    (recordsFor tree is).find? (·.record.xref == xref) =
      (is.find? fun i => i.Concerns tree xref).map Insertion.stored := by
  rw [recordsFor, List.find?_map, List.find?_filter]
  congr 2
  funext i
  simp only [Function.comp_apply, Insertion.record_stored, decide_eq_true_eq, beq_iff_eq]
  rfl

/-! ## Answers -/

/-- What was found is found again, as it was. -/
lemma lookup_receiveAll_eq_self (is : List Insertion)
    (htree : s.lookup tree xref ≠ .error .unknownTree)
    (hxref : s.lookup tree xref ≠ .error .notFound) :
    (s.receiveAll is).lookup tree xref = s.lookup tree xref := by
  rw [lookup_eq_elim] at htree hxref ⊢
  rw [lookup_eq_elim s]
  cases hrecords : s.tree? tree with
  | none => simp [hrecords] at htree
  | some records =>
    cases hfound : records.find? (·.record.xref == xref) with
    | none => simp [hrecords, hfound] at hxref
    | some r =>
      rw [tree?_receiveAll, hrecords]
      split
      · simp [List.find?_append, hfound]
      · simp [hfound]

/-- Insertions into other trees do not change the answer. -/
lemma lookup_receiveAll_of_forall_ne (h : ∀ i ∈ is, i.tree ≠ tree) (xref : Text) :
    (s.receiveAll is).lookup tree xref = s.lookup tree xref := by
  have hnone : ¬ ∃ i ∈ is, i.tree = tree := fun ⟨i, hi, htree⟩ => h i hi htree
  rw [lookup_eq_elim, tree?_receiveAll, if_neg hnone, lookup_eq_elim]

/-- The answer of a store that was empty at the start. -/
lemma lookup_filledBy (is : List Insertion) (tree xref : Text) :
    (filledBy is).lookup tree xref =
      match is.find? fun i => i.Concerns tree xref with
      | some i => i.answer
      | none => .error (if ∃ i ∈ is, i.tree = tree then .notFound else .unknownTree) := by
  have hempty : empty.tree? tree = none := rfl
  rw [lookup_eq_elim, filledBy, tree?_receiveAll, hempty]
  by_cases his : ∃ i ∈ is, i.tree = tree
  · rw [if_pos his, if_pos his, Option.elim_some, Option.getD_none, List.nil_append,
      find?_recordsFor]
    cases is.find? fun i => i.Concerns tree xref with
    | none => rfl
    | some i => exact i.answer_stored
  · have hnone : (is.find? fun i => i.Concerns tree xref) = none := by
      rw [List.find?_eq_none]
      exact fun i hi => by simpa using fun h : i.Concerns tree xref => his ⟨i, hi, h.1⟩
    rw [if_neg his, if_neg his, hnone]
    rfl

/-! ## Names of trees -/

lemma mem_treeNames_iff : tree ∈ s.treeNames ↔ s.tree? tree ≠ none := by
  rw [treeNames, Text.mem_sortDistinct, tree?_eq_lookup, ne_eq, List.lookup_eq_none_iff]
  simp only [List.mem_map, bne_iff_ne, not_forall, not_not, exists_prop]
  exact exists_congr fun e => and_congr_right fun _ => eq_comm

/-- The trees of a store are those that it had and those that insertions name. -/
lemma mem_treeNames_receiveAll :
    tree ∈ (s.receiveAll is).treeNames ↔ tree ∈ s.treeNames ∨ ∃ i ∈ is, i.tree = tree := by
  rw [mem_treeNames_iff, mem_treeNames_iff, tree?_receiveAll]
  split
  · rename_i his
    simp [his]
  · rename_i his
    simp [his]

/-- Increasing lists of texts are sublists if they have no other members. -/
lemma sublist_of_subset {ts us : List Text} (hts : ts.Pairwise (· < ·)) (hus : us.Pairwise (· < ·))
    (h : ts ⊆ us) : ts.Sublist us := by
  have hirrefl : Std.Irrefl (fun a b : Text => a < b) := ⟨List.lt_irrefl⟩
  have hantisymm : Std.Antisymm (fun a b : Text => a < b) :=
    ⟨fun a b hab hba => absurd (List.lt_trans hab hba) (List.lt_irrefl a)⟩
  exact List.sublist_of_subperm_of_pairwise (List.subperm_of_subset hts.nodup h) hts hus

/-! ## What decides -/

/-- The store answers every request by the first of the insertions that concerns it. -/
structure AnswersByFirst (s : RecordStore) (is : List Insertion) : Prop where
  /-- A tree is unknown just if no insertion names it. -/
  unknownTree_iff : ∀ tree xref,
    s.lookup tree xref = .error .unknownTree ↔ ∀ i ∈ is, i.tree ≠ tree
  /-- A record is not found just if the tree is named, but not with its identifier. -/
  notFound_iff : ∀ tree xref, s.lookup tree xref = .error .notFound ↔
    (∃ i ∈ is, i.tree = tree) ∧ ∀ i ∈ is, i.tree = tree → i.record.xref ≠ xref
  /-- Any other request is decided by the first insertion with its tree and its identifier, whatever
  comes after it. -/
  first : ∀ tree xref before i after, is = before ++ i :: after →
    i.Concerns tree xref → (∀ j ∈ before, ¬ j.Concerns tree xref) →
    s.lookup tree xref = i.answer
  /-- The trees are those that insertions name, in increasing order. -/
  treeNames : s.treeNames.Pairwise (· < ·) ∧
    ∀ tree, tree ∈ s.treeNames ↔ ∃ i ∈ is, i.tree = tree

/-- What the store `s` shows and what it hides is the same in the store `t` that later insertions
made of it. -/
structure IsKeptBy (s t : RecordStore) (later : List Insertion) : Prop where
  /-- No visible record is hidden or changed. -/
  visible : ∀ tree xref r, s.lookup tree xref = .ok r → t.lookup tree xref = .ok r
  /-- No hidden record is revealed. -/
  hidden : ∀ tree xref reason, s.lookup tree xref = .error (.accessDenied reason) →
    t.lookup tree xref = .error (.accessDenied reason)
  /-- No other tree is affected. -/
  elsewhere : ∀ tree, (∀ i ∈ later, i.tree ≠ tree) →
    ∀ xref, t.lookup tree xref = s.lookup tree xref
  /-- Names of trees are only added. -/
  treeNames : s.treeNames.Sublist t.treeNames

/-- Insertions keep what a store shows and what it hides. -/
lemma isKeptBy_receiveAll (s : RecordStore) (later : List Insertion) :
    s.IsKeptBy (s.receiveAll later) later where
  visible tree xref r h := by
    rw [lookup_receiveAll_eq_self later (by simp [h]) (by simp [h]), h]
  hidden tree xref reason h := by
    rw [lookup_receiveAll_eq_self later (by simp [h]) (by simp [h]), h]
  elsewhere tree h xref := lookup_receiveAll_of_forall_ne h xref
  treeNames := by
    apply sublist_of_subset (Text.pairwise_sortDistinct _) (Text.pairwise_sortDistinct _)
    exact fun tree htree => mem_treeNames_receiveAll.2 (Or.inl htree)

/-- A store that was empty at the start answers by the first insertion. -/
lemma answersByFirst_filledBy (is : List Insertion) : (filledBy is).AnswersByFirst is where
  unknownTree_iff tree xref := by
    rw [lookup_filledBy]
    constructor
    · intro h i hi htree
      have hnamed : ∃ i ∈ is, i.tree = tree := ⟨i, hi, htree⟩
      -- an insertion has an answer of its own, so none was found
      split at h
      · exact absurd h (Insertion.answer_ne _).1
      · simp [hnamed] at h
    · intro h
      have hnone : ¬ ∃ i ∈ is, i.tree = tree := fun ⟨i, hi, htree⟩ => h i hi htree
      split
      · rename_i i hfirst
        obtain ⟨htree, -⟩ : i.Concerns tree xref := by simpa using List.find?_some hfirst
        exact absurd htree (h i (List.mem_of_find?_eq_some hfirst))
      · rw [if_neg hnone]
  notFound_iff tree xref := by
    rw [lookup_filledBy]
    constructor
    · intro h
      split at h
      · exact absurd h (Insertion.answer_ne _).2
      · rename_i hnone
        have hnamed : ∃ i ∈ is, i.tree = tree := by
          by_contra hnot
          simp [hnot] at h
        refine ⟨hnamed, fun i hi htree hxref => ?_⟩
        exact List.find?_eq_none.1 hnone i hi (by simpa using ⟨htree, hxref⟩)
    · rintro ⟨hnamed, hnone⟩
      split
      · rename_i i hfirst
        obtain ⟨htree, hxref⟩ : i.Concerns tree xref := by simpa using List.find?_some hfirst
        exact absurd hxref (hnone i (List.mem_of_find?_eq_some hfirst) htree)
      · rw [if_pos hnamed]
  first tree xref before i after his hi hbefore := by
    have hfirst : (is.find? fun i => i.Concerns tree xref) = some i := by
      rw [List.find?_eq_some_iff_append]
      exact ⟨by simpa using hi, before, after, his, fun j hj => by simpa using hbefore j hj⟩
    rw [lookup_filledBy, hfirst]
  treeNames := by
    refine ⟨Text.pairwise_sortDistinct _, fun tree => ?_⟩
    rw [filledBy, mem_treeNames_receiveAll]
    simp [mem_treeNames_iff, tree?, empty]

/-- Of a store that was empty at the start the first insertion of a record decides who may see it.
Every request is answered by the first insertion that concerns it, and what later insertions add to
the store changes neither what it shows nor what it hides. -/
theorem filledBy_answersByFirst (is later : List Insertion) :
    (filledBy is).AnswersByFirst is ∧ (filledBy is).IsKeptBy (filledBy (is ++ later)) later := by
  have hrun : filledBy (is ++ later) = (filledBy is).receiveAll later := List.foldl_append
  exact ⟨answersByFirst_filledBy is, hrun ▸ isKeptBy_receiveAll (filledBy is) later⟩

/-- A record that everyone may see, and one that the reader may not see. -/
def twoRecords : List Insertion :=
  [.visible "demo" ⟨"I1", .individual, "Anna", []⟩,
    .hidden "demo" ⟨"I2", .individual, "Jane", []⟩ (some "Living person")]

/-- The same identifiers the other way round, and a record of another tree. -/
def swappedRecords : List Insertion :=
  [.hidden "demo" ⟨"I1", .note, [], []⟩ none, .visible "demo" ⟨"I2", .individual, "Jane", []⟩,
    .visible "attic" ⟨"I2", .source, "Letters", []⟩]

/-- Who may see the two records is decided before their identifiers come again. -/
theorem filledBy_answersByFirst_twoRecords :
    (filledBy twoRecords).lookup "demo" "I1" = .ok ⟨"I1", .individual, "Anna", []⟩ ∧
      (filledBy (twoRecords ++ swappedRecords)).lookup "demo" "I1" =
        .ok ⟨"I1", .individual, "Anna", []⟩ ∧
      (filledBy twoRecords).lookup "demo" "I2" =
        .error (.accessDenied (some "Living person")) ∧
      (filledBy (twoRecords ++ swappedRecords)).lookup "demo" "I2" =
        .error (.accessDenied (some "Living person")) ∧
      (filledBy twoRecords).lookup "demo" "I3" = .error .notFound ∧
      (filledBy twoRecords).lookup "attic" "I2" = .error .unknownTree := by
  obtain ⟨hfirst, hkept⟩ := filledBy_answersByFirst twoRecords swappedRecords
  have hvisible := hfirst.first "demo" "I1" [] _ _ rfl (by decide) (by simp)
  have hhidden := hfirst.first "demo" "I2" [_] _ [] rfl (by decide) (by decide)
  exact ⟨hvisible, hkept.visible _ _ _ hvisible, hhidden, hkept.hidden _ _ _ hhidden,
    (hfirst.notFound_iff _ _).2 (by decide), (hfirst.unknownTree_iff _ _).2 (by decide)⟩

end RecordStore

end NoteLinks
