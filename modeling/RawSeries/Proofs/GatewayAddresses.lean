import RawSeries.Proofs.ScannerSessions

namespace RawSeries

namespace Gateway

theorem escape_eq_self {shown : Char → Bool} {cs : List Char} (h : ∀ c ∈ cs, shown c = true) :
    escape shown cs = cs := by
  induction cs with
  | nil => rfl
  | cons c cs ih =>
      obtain ⟨hc, hcs⟩ := List.forall_mem_cons.mp h
      have hrest := ih hcs
      rw [escape] at hrest ⊢
      rw [List.flatMap_cons, hc, hrest]
      rfl

namespace Address

/-- All characters of a path are shown as themselves, and none of its segments are dots. -/
structure IsPlain (path : List Char) : Prop where
  shown : ∀ c ∈ path, isPathChar c = true
  undotted : ∀ part ∈ Text.splitOn '/' path, part ≠ ['.'] ∧ part ≠ ['.', '.']

theorem followDots_eq (before : List (List Char)) {parts : List (List Char)}
    (h : ∀ part ∈ parts, part ≠ ['.'] ∧ part ≠ ['.', '.']) :
    followDots before parts = before.reverse ++ parts := by
  induction parts generalizing before with
  | nil => simp [followDots]
  | cons part parts ih =>
      obtain ⟨⟨hone, htwo⟩, hmore⟩ := List.forall_mem_cons.mp h
      rw [followDots, if_neg hone, if_neg htwo, ih _ hmore]
      simp

variable {path : List Char}

theorem IsPlain.plainPath_eq (h : IsPlain path) : plainPath path = path := by
  rw [plainPath, followDots_eq [] h.undotted]
  exact (Text.splitOn_parts '/' path).1

theorem IsPlain.not_mem (h : IsPlain path) {c : Char} (hc : isPathChar c = false) : c ∉ path := by
  intro hmem
  rw [h.shown c hmem] at hc
  cases hc

theorem cutPart_eq {mark : Char} {cs : List Char} (h : mark ∉ cs) : cutPart mark cs = (cs, none) := by
  have hnone : Text.cutAt? mark cs = none := by
    cases hcut : Text.cutAt? mark cs with
    | none => rfl
    | some parts =>
        obtain ⟨rfl, -⟩ := Text.cutAt?_eq_some_iff.mp (show _ = some (parts.1, parts.2) from hcut)
        simp at h
  rw [cutPart, hnone]

/-- The address of a path on the host `gw`. -/
def onGateway (path : List Char) : Address :=
  ⟨"http".toList, [], "gw".toList, none, path, none, none⟩

/-- A path starts with a slash, and not with two. -/
def IsRooted (path : List Char) : Prop :=
  ∃ c rest, path = '/' :: c :: rest ∧ c ≠ '/'

theorem ofParts_gw (h : IsPlain path) (hroot : IsRooted path) :
    ofParts "http".toList "gw".toList path none none = .ok (onGateway path) := by
  have huser : cutUser "gw".toList = ([], "gw".toList) := by decide
  have hport : cutPort "gw".toList = ("gw".toList, []) := by decide
  have hhost : (Host.read "gw".toList).mapError Flaw.host = .ok "gw".toList := by
    rfl
  have hread : Port.read? "http".toList [] = some none := by decide
  obtain ⟨c, rest, hpath, -⟩ := hroot
  have hcheck : checkPath true true path = .ok () := by simp [checkPath, hpath]
  have hpaths : escape isPathChar (plainPath path) = path := by
    rw [h.plainPath_eq, escape_eq_self h.shown]
  unfold ofParts
  rw [huser]
  simp only [hport, hhost, hread]
  change (checkPath true true path >>= fun _ =>
    pure { onGateway path with path := escape isPathChar (plainPath path) }) = _
  rw [hcheck, hpaths]
  rfl

theorem target_onGateway (hroot : IsRooted path) : (onGateway path).target = path := by
  obtain ⟨c, rest, rfl, -⟩ := hroot
  simp [target, onGateway]

theorem isSendable_onGateway (path : List Char) : (onGateway path).isSendable = true := rfl

theorem withTarget_gw (h : IsPlain path) (hroot : IsRooted path) (hlength : path.length ≤ maxLength) :
    (onGateway []).withTarget path = .ok (onGateway path) := by
  have hcut : cutPart '?' path = (path, none) := cutPart_eq (h.not_mem (by decide))
  rw [withTarget, hcut]
  simp only [if_neg (Nat.not_lt.mpr hlength), Option.any_none]
  exact ofParts_gw h hroot

theorem code_of_shown {c : Char} (h : isPathChar c = true) : 32 < c.toNat ∧ c.toNat < 127 := by
  simp only [isPathChar, isQueryChar, isShown, Bool.and_eq_true, decide_eq_true_eq] at h
  exact h.1.1.1

theorem find?_isControl {cs : List Char} (h : ∀ c ∈ cs, isPathChar c = true) :
    cs.find? isControl = none := by
  apply List.find?_eq_none.mpr
  intro c hc
  have hcode := code_of_shown (h c hc)
  simp only [isControl, Bool.or_eq_true, decide_eq_true_eq]
  omega

theorem read_path (h : IsPlain path) (hroot : IsRooted path) (hlength : path.length ≤ maxLength) :
    Address.read (String.ofList path) = .ok { blank with path } := by
  have hcontrol := find?_isControl h.shown
  have hfragment : cutPart '#' path = (path, none) := cutPart_eq (h.not_mem (by decide))
  have hquery : cutPart '?' path = (path, none) := cutPart_eq (h.not_mem (by decide))
  have hpaths : escape isPathChar path = path := escape_eq_self h.shown
  obtain ⟨c, rest, hpath, hslash⟩ := hroot
  have hscheme : cutScheme path = ([], path) := by
    rw [hpath]
    rfl
  have hcheck : checkPath false false path = .ok () := by
    simp [checkPath, hpath, hslash]
  have hparts : ofParts [] [] path none none = .ok { blank with path } := by
    change (checkPath false false path >>= fun _ =>
      pure { blank with path := escape isPathChar path }) = _
    rw [hcheck, hpaths]
    rfl
  rw [Address.read, String.toList_ofList]
  simp only [if_neg (Nat.not_lt.mpr hlength), hcontrol, hscheme]
  split
  · have hsecond : c = '/' := (List.cons.inj (List.cons.inj hpath).2).1.symm
    exact absurd hsecond hslash
  · simp only [hfragment, hquery, hparts]

theorem read_gw (h : IsPlain path) (hroot : IsRooted path) (hlength : path.length + 9 ≤ maxLength) :
    Address.read (String.ofList ("http://gw".toList ++ path)) = .ok (onGateway path) := by
  have hcontrol : ("http://gw".toList ++ path).find? isControl = none := by
    rw [List.find?_append, find?_isControl h.shown]
    decide
  have hfragment : cutPart '#' path = (path, none) := cutPart_eq (h.not_mem (by decide))
  have hquery : cutPart '?' path = (path, none) := cutPart_eq (h.not_mem (by decide))
  have hparts := ofParts_gw h hroot
  obtain ⟨c, rest, hpath, hslash⟩ := hroot
  have hscheme : cutScheme ("http://gw".toList ++ path) =
      ("http".toList, '/' :: '/' :: ("gw".toList ++ path)) := rfl
  have hplace : ("gw".toList ++ path).takeWhile isHostChar = "gw".toList := by
    rw [hpath]
    rfl
  have hrest : ("gw".toList ++ path).dropWhile isHostChar = path := by
    rw [hpath]
    rfl
  have hshort : ¬maxLength < ("http://gw".toList ++ path).length := by
    have hhost : "http://gw".toList.length = 9 := by decide
    rw [List.length_append, hhost]
    omega
  rw [Address.read, String.toList_ofList]
  simp only [if_neg hshort, hcontrol, hscheme, hplace, hrest, hfragment, hquery, hparts]

/-- A path that starts with one slash is asked for below the gateway, whether its host stands before
it or not. -/
theorem resolve_path (h : IsPlain path) (hroot : IsRooted path) (hlength : path.length ≤ maxLength) :
    (onGateway []).resolve (String.ofList path) = .ok (onGateway path) := by
  have hread := read_path h hroot hlength
  have hbelow := withTarget_gw h hroot hlength
  obtain ⟨c, rest, hpath, hslash⟩ := hroot
  have htarget : (onGateway []).target ++ ({ blank with path } : Address).target.dropWhile
      (· == '/') = path := by
    have hc : (c == '/') = false := by simpa using hslash
    simp [target, onGateway, blank, hpath, hc]
  have hfull : ({ blank with path } : Address).isFull = false := rfl
  rw [resolve, hread]
  change (onGateway []).under { blank with path } = _
  rw [under, hfull, htarget]
  exact hbelow

theorem resolve_gw (h : IsPlain path) (hroot : IsRooted path) (hlength : path.length + 9 ≤ maxLength) :
    (onGateway []).resolve (String.ofList ("http://gw".toList ++ path)) =
      .ok (onGateway path) := by
  rw [resolve, read_gw h hroot hlength]
  rfl

theorem isPlain_segment {part : List Char} (hshown : ∀ c ∈ part, isPathChar c = true)
    (hslash : '/' ∉ part) (hdots : part ≠ ['.'] ∧ part ≠ ['.', '.']) : IsPlain part := by
  refine ⟨hshown, ?_⟩
  rw [Text.splitOn_of_not_mem hslash]
  simpa using hdots

theorem IsPlain.cons {part : List Char} (h : IsPlain part) (hslash : '/' ∉ part)
    (hpath : IsPlain path) : IsPlain (part ++ '/' :: path) := by
  constructor
  · intro c hc
    rcases List.mem_append.mp hc with hc | hc
    · exact h.shown c hc
    · rcases List.mem_cons.mp hc with rfl | hc
      · decide
      · exact hpath.shown c hc
  · rw [Text.splitOn_append hslash]
    refine List.forall_mem_cons.mpr ⟨h.undotted part ?_, hpath.undotted⟩
    rw [Text.splitOn_of_not_mem hslash]
    exact List.mem_singleton_self part

theorem isPlain_natural (n : Nat) : IsPlain (Numeral.natural n).toList := by
  have hdigits : ∀ c ∈ (Numeral.natural n).toList, isPathChar c = true ∧ c ≠ '/' ∧ c ≠ '.' :=
    Numeral.natural_all (by decide) n
  refine isPlain_segment (fun c hc => (hdigits c hc).1) (fun hc => (hdigits _ hc).2.1 rfl) ⟨?_, ?_⟩
  · intro heq
    exact (hdigits '.' (by simp [heq])).2.2 rfl
  · intro heq
    exact (hdigits '.' (by simp [heq])).2.2 rfl

theorem serves_gw {table : String} (hplain : IsPlain table.toList) (hslash : '/' ∉ table.toList)
    (hne : table.toList ≠ []) {k last : Nat} (hlast : last < Nat.pow 10 k)
    (hlength : table.toList.length + k ≤ 65000) : (onGateway []).Serves table table last := by
  have hempty : IsPlain [] := isPlain_segment nofun nofun (by decide)
  have hscanner : IsPlain "scanner".toList :=
    isPlain_segment (List.all_eq_true.mp (by decide)) (by decide) (by decide)
  have hroot : ∀ rest, IsRooted ('/' :: (table.toList ++ rest)) := by
    intro rest
    obtain ⟨c, more, htable⟩ := List.exists_cons_of_ne_nil hne
    refine ⟨c, more ++ rest, by rw [htable]; rfl, ?_⟩
    rintro rfl
    exact hslash (by simp [htable])
  refine ⟨?_, ?_, ?_⟩
  · apply List.all_eq_true.mpr
    intro c hc
    have hcode := code_of_shown (hplain.shown c hc)
    simp only [Label.isAscii, decide_eq_true_eq]
    omega
  · let path := '/' :: (table.toList ++ '/' :: "scanner".toList)
    have hpath : IsPlain path := hempty.cons nofun (hplain.cons hslash hscanner)
    have haddress : "/" ++ table ++ "/scanner" = String.ofList path := by
      apply String.toList_inj.mp
      simp [path]
    have hshort : path.length ≤ maxLength := by
      have hscanner : "scanner".toList.length = 7 := by decide
      simp only [path, List.length_cons, List.length_append, hscanner, maxLength]
      omega
    refine ⟨onGateway path, ?_, isSendable_onGateway path, ?_⟩
    · rw [haddress]
      exact resolve_path hpath (hroot _) hshort
    · have hnone : '/' ∉ ([] : List Char) := nofun
      have hword : '/' ∉ "scanner".toList := by decide
      have hsplit : Text.splitOn '/' path = [[], table.toList, "scanner".toList] := by
        have hfirst := Text.splitOn_append hnone (table.toList ++ '/' :: "scanner".toList)
        rw [Text.splitOn_append hslash, Text.splitOn_of_not_mem hword] at hfirst
        exact hfirst
      rw [target_onGateway (hroot _), Service.segments, String.toList_ofList, hsplit]
      simp
  · intro n hn
    let path := '/' :: (table.toList ++ '/' :: ("scanner".toList ++
      '/' :: (Numeral.natural n).toList))
    have hpath : IsPlain path := hempty.cons nofun
      (hplain.cons hslash (hscanner.cons (by decide) (isPlain_natural n)))
    have hown : Service.scannerPath table n = String.ofList path := by
      apply String.toList_inj.mp
      simp [path, Service.scannerPath]
    have hshort : path.length + 9 ≤ maxLength := by
      have hscanner : "scanner".toList.length = 7 := by decide
      have hnumeral := Numeral.length_natural_le (Nat.lt_of_le_of_lt hn hlast)
      simp only [path, List.length_cons, List.length_append, hscanner, maxLength]
      omega
    refine ⟨onGateway path, ?_, isSendable_onGateway path, ?_⟩
    · rw [hown, ← resolve_gw hpath (hroot _) hshort]
      congr 1
      apply String.toList_inj.mp
      simp
    · rw [target_onGateway (hroot _), hown]

end Address

end Gateway

end RawSeries
