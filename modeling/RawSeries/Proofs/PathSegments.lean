import RawSeries.Proofs.GatewayAddresses
import RawSeries.Proofs.Utf8Sequences
import RawSeries.Store.Remote

namespace RawSeries

open Gateway (Address Session)

namespace Percent

/-- Plain characters, and percent signs with two upper-case hexadecimal digits. -/
inductive Escaped : List Char → Prop
  | nil : Escaped []
  | plain {cs : List Char} (c : Char) (hc : c.isAlphanum = true ∨ c ∈ ['_', '.', '-', '~'])
      (h : Escaped cs) : Escaped (c :: cs)
  | byte {cs : List Char} (high low : Char) (hhigh : high ∈ "0123456789ABCDEF".toList)
      (hlow : low ∈ "0123456789ABCDEF".toList) (h : Escaped cs) :
      Escaped ('%' :: high :: low :: cs)

theorem plain_char {x : UInt8} (h : isPlain x = true) :
    ((Char.ofNat x.toNat).isAlphanum = true ∨ Char.ofNat x.toNat ∈ ['_', '.', '-', '~']) ∧
      Char.ofNat x.toNat ≠ '%' ∧ UInt8.ofNat (Char.ofNat x.toNat).toNat = x := by
  have hall : ∀ k : Fin 256, isPlain (UInt8.ofNat k) = true →
      ((Char.ofNat k).isAlphanum = true ∨ Char.ofNat k ∈ ['_', '.', '-', '~']) ∧
        Char.ofNat k ≠ '%' ∧ UInt8.ofNat (Char.ofNat k).toNat = UInt8.ofNat k := by
    decide +kernel
  have hx := hall ⟨x.toNat, x.toNat_lt⟩
  simp only [UInt8.ofNat_toNat] at hx
  exact hx h

theorem upperDigit_mem {n : Nat} (h : n < 16) : upperDigit n ∈ "0123456789ABCDEF".toList := by
  have hall : ∀ k : Fin 16, upperDigit k ∈ "0123456789ABCDEF".toList := by decide
  exact hall ⟨n, h⟩

theorem hexDigit?_upperDigit {n : Nat} (h : n < 16) : Bytes.hexDigit? (upperDigit n) = some n := by
  have hall : ∀ k : Fin 16, Bytes.hexDigit? (upperDigit k) = some k.val := by decide
  exact hall ⟨n, h⟩

theorem escaped_encode (b : Bytes) : Escaped (encode b).toList := by
  rw [encode, String.toList_ofList]
  induction b with
  | nil => exact .nil
  | cons x b ih =>
      have hx := x.toNat_lt
      rw [List.flatMap_cons, encodeByte]
      split
      · rename_i hplain
        exact .plain _ (plain_char hplain).1 ih
      · exact .byte _ _ (upperDigit_mem (by omega)) (upperDigit_mem (by omega)) ih

theorem decodeChars_encodeByte (x : UInt8) (rest : List Char) :
    decodeChars (encodeByte x ++ rest) = x :: decodeChars rest := by
  have hx := x.toNat_lt
  unfold encodeByte
  split
  · rename_i hplain
    obtain ⟨-, hpercent, hbyte⟩ := plain_char hplain
    rw [List.singleton_append, decodeChars, hbyte]
    intro high low more heq
    exact absurd heq hpercent
  · rw [escapeByte, List.cons_append, List.cons_append, List.singleton_append, decodeChars,
      hexDigit?_upperDigit (by omega), hexDigit?_upperDigit (by omega)]
    have hbyte : 16 * (x.toNat / 16) + x.toNat % 16 = x.toNat := Nat.div_add_mod x.toNat 16
    simp only [hbyte, UInt8.ofNat_toNat]

theorem decode_encode (b : Bytes) : decode (encode b) = b := by
  rw [decode, encode, String.toList_ofList]
  induction b with
  | nil => rfl
  | cons x b ih => rw [List.flatMap_cons, decodeChars_encodeByte, ih]

end Percent

theorem pathSegment_eq_ok_iff {key : Bytes} {segment : String} :
    pathSegment key = .ok segment ↔
      (Utf8.WellFormed key ∧ key.getLast? ≠ some 42) ∧ segment = Percent.encode key := by
  unfold pathSegment
  by_cases htext : Utf8.WellFormed key
  · have hsome : ¬(Utf8.decode? key).isNone = true := by
      rw [Option.isNone_iff_eq_none, Utf8.decode?_eq_none_iff]
      exact fun hnone => hnone htext
    rw [if_neg hsome]
    by_cases hstar : key.getLast? = some 42
    · simp [hstar]
    · simp [hstar, htext, eq_comm]
  · have hnone : (Utf8.decode? key).isNone = true := by
      rw [Option.isNone_iff_eq_none, Utf8.decode?_eq_none_iff]
      exact htext
    simp [hnone, htext]

theorem exists_flaw_iff {key : Bytes} :
    (∃ flaw, pathSegment key = .error flaw) ↔
      ¬Utf8.WellFormed key ∨ key.getLast? = some 42 := by
  constructor
  · rintro ⟨flaw, h⟩
    by_cases htext : Utf8.WellFormed key
    · refine .inr (Decidable.byContradiction fun hstar => ?_)
      rw [pathSegment_eq_ok_iff.mpr ⟨⟨htext, hstar⟩, rfl⟩] at h
      cases h
    · exact .inl htext
  · intro hrefused
    cases h : pathSegment key with
    | error flaw => exact ⟨flaw, rfl⟩
    | ok segment =>
        obtain ⟨⟨htext, hstar⟩, -⟩ := pathSegment_eq_ok_iff.mp h
        rcases hrefused with hnone | hends
        · exact absurd htext hnone
        · exact absurd hends hstar

theorem decode_segment {key : Bytes} {segment : String} (h : pathSegment key = .ok segment) :
    Percent.decode segment = key := by
  rw [(pathSegment_eq_ok_iff.mp h).2, Percent.decode_encode]

theorem RemoteTable.delete_unaddressed {key : Bytes} {flaw : Store.Flaw}
    (h : pathSegment key = .error flaw) (t : RemoteTable) (s : Session) :
    (t.delete key).run.run s = (.error (.store flaw), s) := by
  unfold delete
  rw [h]
  rfl

/-- A delete asks for its segment below the table, and for nothing else. -/
theorem RemoteTable.delete_requests {key : Bytes} {segment : String}
    (h : pathSegment key = .ok segment) (t : RemoteTable) (s : Session) :
    s.Requests "DELETE" ("/" ++ t.name ++ "/" ++ segment) none ((t.delete key).run.run s).2 ∧
      s.Begins "DELETE" ("/" ++ t.name ++ "/" ++ segment) none ((t.delete key).run.run s).2 := by
  have hdelete : t.delete key =
      Session.demand "DELETE" ("/" ++ t.name ++ "/" ++ segment) none >>= fun _ => pure () := by
    unfold delete
    rw [h]
    rfl
  rcases hdemand : (Session.demand "DELETE" ("/" ++ t.name ++ "/" ++ segment) none).run.run s
    with ⟨r, s'⟩
  have hrun : ((t.delete key).run.run s).2 = s' := by
    rw [hdelete]
    cases r with
    | error f => rw [Task.bind_of_error hdemand]
    | ok answer =>
        rw [Task.bind_of_ok hdemand]
        rfl
  rw [hrun]
  exact Session.demand_requests hdemand

theorem Percent.isPathChar_encode {b : Bytes} {c : Char} (h : c ∈ (encode b).toList) :
    Address.isPathChar c = true ∧ c ≠ '/' := by
  have hall : ∀ k : Fin 256, (encodeByte (UInt8.ofNat k)).all (fun c =>
      Address.isPathChar c && c != '/') = true := by
    decide +kernel
  rw [encode, String.toList_ofList] at h
  obtain ⟨x, -, hc⟩ := List.mem_flatMap.mp h
  have hx := List.all_eq_true.mp (hall ⟨x.toNat, x.toNat_lt⟩)
  simp only [UInt8.ofNat_toNat] at hx
  simpa using hx c hc

/-- A gateway is asked for the segment as it is written, unless it would be left out as one of
dots. -/
theorem resolve_segment {key : Bytes} {segment : String} (h : pathSegment key = .ok segment)
    (hdots : key ≠ [46] ∧ key ≠ [46, 46]) {t : RemoteTable}
    (hplain : Address.IsPlain t.name.toList) (hslash : '/' ∉ t.name.toList)
    (hne : t.name ≠ "") (hlength : t.name.length + segment.length + 2 ≤ Address.maxLength) :
    (Address.onGateway []).resolve ("/" ++ t.name ++ "/" ++ segment) =
      .ok (.onGateway ("/" ++ t.name ++ "/" ++ segment).toList) := by
  obtain ⟨-, hsegment⟩ := pathSegment_eq_ok_iff.mp h
  have hread := decode_segment h
  have hshown : ∀ c ∈ segment.toList, Address.isPathChar c = true ∧ c ≠ '/' := by
    rw [hsegment]
    exact fun c hc => Percent.isPathChar_encode hc
  have hown : Address.IsPlain segment.toList := by
    refine Address.isPlain_segment (fun c hc => (hshown c hc).1)
      (fun hc => (hshown _ hc).2 rfl) ⟨fun hone => ?_, fun htwo => ?_⟩
    · rw [show segment = "." from String.toList_inj.mp hone] at hread
      exact hdots.1 hread.symm
    · rw [show segment = ".." from String.toList_inj.mp htwo] at hread
      exact hdots.2 hread.symm
  have hpath : ("/" ++ t.name ++ "/" ++ segment).toList =
      '/' :: (t.name.toList ++ '/' :: segment.toList) := by
    simp
  have hempty : Address.IsPlain [] := Address.isPlain_segment nofun nofun (by decide)
  have hroot : Address.IsRooted ('/' :: (t.name.toList ++ '/' :: segment.toList)) := by
    obtain ⟨c, more, hname⟩ : ∃ c more, t.name.toList = c :: more :=
      List.exists_cons_of_ne_nil (mt String.toList_eq_nil_iff.mp hne)
    refine ⟨c, more ++ '/' :: segment.toList, by rw [hname]; rfl, ?_⟩
    rintro rfl
    exact hslash (by simp [hname])
  rw [← String.ofList_toList (s := "/" ++ t.name ++ "/" ++ segment), hpath, String.toList_ofList]
  refine Address.resolve_path (hempty.cons nofun (hplain.cons hslash hown)) hroot ?_
  simp only [List.length_cons, List.length_append, String.length_toList]
  omega

/-- A key is refused for a path exactly when it is not well-formed UTF-8 or ends in a star, and the
row is then left alone without a request. The segment of any other key is plain or escaped, its
bytes are a text that is written as the key, and no other key has it. The requests for that row are
deletes of its segment below the table, and there is one at least; the gateway `gw` is asked for the
segment as it is written. -/
theorem pathSegment_addresses (key : Bytes) :
    ((∃ flaw, pathSegment key = .error flaw) ↔
        ¬Utf8.WellFormed key ∨ key.getLast? = some 42) ∧
      (∀ flaw, pathSegment key = .error flaw →
        (Fault.store flaw).kind = .store ∧
          ∀ (t : RemoteTable) (s : Session),
            (t.delete key).run.run s = (.error (.store flaw), s)) ∧
      ∀ segment, pathSegment key = .ok segment →
        Percent.Escaped segment.toList ∧
          (∃ text, Utf8.decode? (Percent.decode segment) = some text ∧ Utf8.encode text = key) ∧
          (∀ other, pathSegment other = .ok segment → other = key) ∧
          (∀ (t : RemoteTable) (s : Session),
            s.Requests "DELETE" ("/" ++ t.name ++ "/" ++ segment) none
                ((t.delete key).run.run s).2 ∧
              s.Begins "DELETE" ("/" ++ t.name ++ "/" ++ segment) none
                ((t.delete key).run.run s).2) ∧
          ∀ t : RemoteTable, Address.IsPlain t.name.toList → '/' ∉ t.name.toList → t.name ≠ "" →
            key ≠ [46] ∧ key ≠ [46, 46] →
            t.name.length + segment.length + 2 ≤ Address.maxLength →
            (Address.onGateway []).resolve ("/" ++ t.name ++ "/" ++ segment) =
              .ok (.onGateway ("/" ++ t.name ++ "/" ++ segment).toList) := by
  refine ⟨exists_flaw_iff, fun flaw h => ⟨rfl, RemoteTable.delete_unaddressed h⟩, ?_⟩
  intro segment h
  obtain ⟨⟨htext, -⟩, hsegment⟩ := pathSegment_eq_ok_iff.mp h
  obtain ⟨text, hwritten⟩ := Utf8.wellFormed_iff.mp htext
  refine ⟨?_, ⟨text, ?_, hwritten⟩, ?_, RemoteTable.delete_requests h, ?_⟩
  · rw [hsegment]
    exact Percent.escaped_encode key
  · rw [decode_segment h]
    exact Utf8.decode?_eq_some_iff.mpr hwritten
  · intro other hother
    rw [← decode_segment h, decode_segment hother]
  · intro t hplain hslash hne hdots hlength
    exact resolve_segment h hdots hplain hslash hne hlength

example : pathSegment [0, 195, 169, 42, 65] = .ok "%00%C3%A9%2AA" := by
  cbv

/-- A slash in two bytes, half of a surrogate pair, a form without its end, and U+110000. -/
example : [[192, 175], [237, 160, 128], [226, 130], [244, 144, 128, 128]].all
    (fun key => (Utf8.decode? key).isNone) = true := by
  cbv

end RawSeries
