import RawSeries.Fault
import RawSeries.Proofs.BigEndian

namespace RawSeries.Key

variable {l : Layout}

def tagBytes (tags : List (Bytes × Bytes)) : Bytes :=
  tags.flatMap fun t => t.1 ++ t.2

theorem tagBytes_cons (t : Bytes × Bytes) (tags : List (Bytes × Bytes)) :
    tagBytes (t :: tags) = t.1 ++ t.2 ++ tagBytes tags :=
  rfl

theorem length_tagBytes {tags : List (Bytes × Bytes)}
    (hfits : ∀ t ∈ tags, t.1.length = l.tagKey ∧ t.2.length = l.tagValue) :
    (tagBytes tags).length = tags.length * l.tag := by
  induction tags with
  | nil => exact (Nat.zero_mul _).symm
  | cons t tags ih =>
      obtain ⟨⟨hkey, hvalue⟩, htags⟩ := List.forall_mem_cons.mp hfits
      have hwidth : l.tag = l.tagKey + l.tagValue := rfl
      rw [tagBytes_cons, List.length_append, List.length_append, hkey, hvalue, ih htags,
        List.length_cons, Nat.succ_mul, ← hwidth, Nat.add_comm]

theorem tagsFrom_of_ne_nil (h : 0 < l.tag) {b : Bytes} (hb : b ≠ []) :
    tagsFrom l b =
      (b.take l.tagKey, (b.drop l.tagKey).take l.tagValue) :: tagsFrom l (b.drop l.tag) := by
  obtain ⟨x, rest, rfl⟩ := List.exists_cons_of_ne_nil hb
  obtain ⟨n, hn⟩ := Nat.exists_eq_add_of_lt h
  rw [tagsFrom, hn]
  simp

theorem tagsFrom_tagBytes (h : 0 < l.tag) {tags : List (Bytes × Bytes)}
    (hfits : ∀ t ∈ tags, t.1.length = l.tagKey ∧ t.2.length = l.tagValue) :
    tagsFrom l (tagBytes tags) = tags := by
  induction tags with
  | nil => rw [tagBytes, List.flatMap_nil, tagsFrom]
  | cons t tags ih =>
      obtain ⟨⟨hkey, hvalue⟩, htags⟩ := List.forall_mem_cons.mp hfits
      have hwidth : (t.1 ++ t.2).length = l.tag := by
        rw [List.length_append, hkey, hvalue, Layout.tag]
      have hsome : t.1 ++ t.2 ++ tagBytes tags ≠ [] := by
        apply List.ne_nil_of_length_pos
        rw [List.length_append]
        omega
      rw [tagBytes_cons, tagsFrom_of_ne_nil h hsome, List.drop_left' hwidth, ih htags,
        List.append_assoc, List.take_left' hkey, List.drop_left' hkey, List.take_left' hvalue]

/-- A whole number of tags is cut into tags of full width, and nothing is left out. -/
theorem tagsFrom_whole (h : 0 < l.tag) {count : Nat} {b : Bytes} (hb : b.length = count * l.tag) :
    tagBytes (tagsFrom l b) = b ∧
      ∀ t ∈ tagsFrom l b, t.1.length = l.tagKey ∧ t.2.length = l.tagValue := by
  induction count generalizing b with
  | zero =>
      obtain rfl := List.eq_nil_of_length_eq_zero (hb.trans (Nat.zero_mul _))
      rw [tagsFrom]
      refine ⟨rfl, ?_⟩
      intro t ht
      cases ht
  | succ count ih =>
      rw [Nat.succ_mul] at hb
      have hwidth : l.tag = l.tagKey + l.tagValue := rfl
      have hsome : b ≠ [] := by
        apply List.ne_nil_of_length_pos
        omega
      have hrest : (b.drop l.tag).length = count * l.tag := by
        rw [List.length_drop]
        omega
      obtain ⟨hbytes, hfits⟩ := ih hrest
      rw [tagsFrom_of_ne_nil h hsome]
      constructor
      · calc tagBytes ((b.take l.tagKey, (b.drop l.tagKey).take l.tagValue) ::
              tagsFrom l (b.drop l.tag))
          _ = b.take l.tagKey ++ (b.drop l.tagKey).take l.tagValue ++
                tagBytes (tagsFrom l (b.drop l.tag)) := tagBytes_cons _ _
          _ = b.take l.tag ++ b.drop l.tag := by rw [hbytes, hwidth, List.take_add]
          _ = b := List.take_append_drop l.tag b
      · intro t ht
        rcases List.mem_cons.mp ht with rfl | ht
        · simp only [List.length_take, List.length_drop]
          omega
        · exact hfits t ht

variable {k : Key} {key : Bytes}

theorem metricOf_join (hk : k.Fits l) : metricOf l (join l k) = k.metric := by
  rw [metricOf, join, List.append_assoc, List.take_left' hk.1]

theorem timeOf_join (hk : k.Fits l) : timeOf l (join l k) = k.time := by
  rw [timeOf, join, List.append_assoc, List.drop_left' hk.1,
    List.take_left' (Bytes.length_encode _ _), Bytes.value_encode, Nat.mod_eq_of_lt hk.2.1]

theorem length_join (hk : k.Fits l) : (join l k).length = l.head + k.tags.length * l.tag := by
  have htags : (tagBytes k.tags).length = k.tags.length * l.tag := length_tagBytes hk.2.2
  rw [join, List.length_append, List.length_append, hk.1, Bytes.length_encode, Layout.head]
  exact congrArg _ htags

theorem tagsOf_join (h : 0 < l.tag) (hk : k.Fits l) : tagsOf l (join l k) = k.tags := by
  have hhead : (k.metric ++ Bytes.encode l.time k.time).length = l.head := by
    rw [List.length_append, hk.1, Bytes.length_encode, Layout.head]
  rw [tagsOf, join, List.drop_left' hhead]
  exact tagsFrom_tagBytes h hk.2.2

/-- A key that is long enough for its head, with a whole number of tags behind it. -/
def IsWhole (l : Layout) (key : Bytes) : Prop :=
  l.head ≤ key.length ∧ l.tag ∣ key.length - l.head

theorem isWhole_join (hk : k.Fits l) : IsWhole l (join l k) := by
  rw [IsWhole, length_join hk, Nat.add_sub_cancel_left]
  exact ⟨Nat.le_add_right _ _, Nat.dvd_mul_left _ _⟩

theorem split_of_isWhole (h : 0 < l.tag) (hkey : IsWhole l key) :
    split l key = .ok ⟨metricOf l key, timeOf l key, tagsOf l key⟩ := by
  obtain ⟨hhead, hwhole⟩ := hkey
  have heven : (key.length - l.head) % l.tag = 0 := Nat.mod_eq_zero_of_dvd hwhole
  rw [split, if_neg (by omega), if_neg (by omega)]
  simp only [heven]
  rfl

theorem split_of_not_isWhole (h : 0 < l.tag) (hkey : ¬IsWhole l key) :
    ∃ flaw, split l key = .error flaw ∧ (Fault.key flaw).kind = .illegalData := by
  by_cases hlength : key.length < l.head
  · exact ⟨.tooShort key, if_pos hlength, rfl⟩
  · have heven : (key.length - l.head) % l.tag ≠ 0 := fun heven =>
      hkey ⟨Nat.not_lt.mp hlength, Nat.dvd_of_mod_eq_zero heven⟩
    rw [split, if_neg hlength, if_neg (by omega)]
    exact ⟨.unevenTags (key.length - l.head) l.tag key, if_pos heven, rfl⟩

theorem join_parts (h : 0 < l.tag) (hkey : IsWhole l key) :
    (⟨metricOf l key, timeOf l key, tagsOf l key⟩ : Key).Fits l ∧
      join l ⟨metricOf l key, timeOf l key, tagsOf l key⟩ = key := by
  obtain ⟨hhead, hwhole⟩ := hkey
  have hwidth : l.head = l.metric + l.time := rfl
  have hmetric : (key.take l.metric).length = l.metric := by
    rw [List.length_take]
    omega
  have hmoment : ((key.drop l.metric).take l.time).length = l.time := by
    rw [List.length_take, List.length_drop]
    omega
  have htail : (key.drop l.head).length = (key.length - l.head) / l.tag * l.tag := by
    rw [List.length_drop, Nat.div_mul_cancel hwhole]
  obtain ⟨hbytes, htags⟩ := tagsFrom_whole h htail
  have htime := Bytes.value_lt ((key.drop l.metric).take l.time)
  have hencode := Bytes.encode_value ((key.drop l.metric).take l.time)
  rw [hmoment] at htime hencode
  refine ⟨⟨hmetric, htime, htags⟩, ?_⟩
  calc join l ⟨metricOf l key, timeOf l key, tagsOf l key⟩
    _ = key.take l.metric ++ Bytes.encode l.time (Bytes.value ((key.drop l.metric).take l.time)) ++
          tagBytes (tagsFrom l (key.drop l.head)) := rfl
    _ = key.take l.head ++ key.drop l.head := by rw [hencode, hbytes, Layout.head, List.take_add]
    _ = key := List.take_append_drop l.head key

theorem split_eq_ok_iff (h : 0 < l.tag) : split l key = .ok k ↔ k.Fits l ∧ join l k = key := by
  constructor
  · intro hsplit
    by_cases hkey : IsWhole l key
    · rw [split_of_isWhole h hkey] at hsplit
      cases hsplit
      exact join_parts h hkey
    · obtain ⟨flaw, hflaw, -⟩ := split_of_not_isWhole h hkey
      rw [hflaw] at hsplit
      cases hsplit
  · rintro ⟨hk, rfl⟩
    rw [split_of_isWhole h (isWhole_join hk), metricOf_join hk, timeOf_join hk, tagsOf_join h hk]

/-- When tags take any bytes, a key splits into some parts exactly when they have the widths of the
layout and join to it, and it is refused for its data exactly when there are none. The unique ID
and the base time that are read off the key alone are those of its parts. -/
theorem split_inverts_join (h : 0 < l.tag) (key : Bytes) :
    (∀ k, split l key = .ok k ↔ k.Fits l ∧ join l k = key) ∧
      ((¬∃ k : Key, k.Fits l ∧ join l k = key) ↔
        ∃ flaw, split l key = .error flaw ∧ (Fault.key flaw).kind = .illegalData) ∧
      ∀ k : Key, k.Fits l → join l k = key → metricOf l key = k.metric ∧ timeOf l key = k.time := by
  refine ⟨fun k => split_eq_ok_iff h, ?_, ?_⟩
  · constructor
    · intro hnone
      exact split_of_not_isWhole h fun hkey => hnone ⟨_, join_parts h hkey⟩
    · rintro ⟨flaw, hsplit, -⟩ ⟨k, hparts⟩
      rw [(split_eq_ok_iff h).mpr hparts] at hsplit
      cases hsplit
  · rintro k hk rfl
    exact ⟨metricOf_join hk, timeOf_join hk⟩

/-- A metric, a base time and two tags of other widths than the usual ones, and bytes that end inside
the first tag. -/
theorem split_inverts_join_sample :
    0 < (⟨1, 1, 2, 2⟩ : Layout).tag ∧
      split ⟨1, 1, 2, 2⟩ [7, 2, 3, 1, 0, 4, 2, 0, 5] =
        .ok ⟨[7], 515, [([1], [0, 4]), ([2], [0, 5])]⟩ ∧
      ¬∃ k : Key, k.Fits ⟨1, 1, 2, 2⟩ ∧ join ⟨1, 1, 2, 2⟩ k = [7, 2, 3, 1, 0] := by
  have hwidth : 0 < (⟨1, 1, 2, 2⟩ : Layout).tag := by decide
  have hfits : (⟨[7], 515, [([1], [0, 4]), ([2], [0, 5])]⟩ : Key).Fits ⟨1, 1, 2, 2⟩ :=
    ⟨rfl, by decide, by decide⟩
  have hjoin : join ⟨1, 1, 2, 2⟩ ⟨[7], 515, [([1], [0, 4]), ([2], [0, 5])]⟩ =
      [7, 2, 3, 1, 0, 4, 2, 0, 5] := by
    decide
  have hrefused : split ⟨1, 1, 2, 2⟩ [7, 2, 3, 1, 0] = .error (.unevenTags 2 3 [7, 2, 3, 1, 0]) :=
    rfl
  exact ⟨hwidth, ((split_inverts_join hwidth _).1 _).mpr ⟨hfits, hjoin⟩,
    (split_inverts_join hwidth _).2.1.mpr ⟨_, hrefused, rfl⟩⟩

end RawSeries.Key
