import RawSeries.Proofs.CheckedSettings
import RawSeries.Proofs.TextLines
import RawSeries.Proofs.Utf8Sequences

namespace RawSeries

namespace Properties

open Text (Blanks Bare Unbroken isBlank stripChars)

/-- White space within a line. -/
structure Padding (cs : List Char) : Prop where
  blank : Blanks cs
  unbroken : Unbroken cs

instance : DecidablePred Padding := fun cs =>
  decidable_of_iff (Blanks cs ∧ Unbroken cs) ⟨fun h => ⟨h.1, h.2⟩, fun h => ⟨h.blank, h.unbroken⟩⟩

/-- A key is not empty, begins like no comment, and holds no separator. -/
structure IsKey (cs : List Char) : Prop where
  written : cs ≠ []
  bare : Bare cs
  unbroken : Unbroken cs
  unmarked : cs.head? ≠ some '#' ∧ cs.head? ≠ some '!'
  whole : ∀ c ∈ cs, isSeparator c = false

instance : DecidablePred IsKey := fun cs =>
  decidable_of_iff (cs ≠ [] ∧ Bare cs ∧ Unbroken cs ∧
      (cs.head? ≠ some '#' ∧ cs.head? ≠ some '!') ∧ cs.all fun c => !isSeparator c)
    ⟨fun ⟨hne, hbare, hline, hmark, hwhole⟩ => ⟨hne, hbare, hline, hmark, by simpa using hwhole⟩,
      fun h => ⟨h.written, h.bare, h.unbroken, h.unmarked, by simpa using h.whole⟩⟩

/-- A value may hold anything within its line, separators too. -/
structure IsValue (cs : List Char) : Prop where
  bare : Bare cs
  unbroken : Unbroken cs

instance : DecidablePred IsValue := fun cs =>
  decidable_of_iff (Bare cs ∧ Unbroken cs) ⟨fun h => ⟨h.1, h.2⟩, fun h => ⟨h.bare, h.unbroken⟩⟩

/-- Lines, and the entries in them: blank lines and comments have none. -/
inductive Line : List Char → Option (String × String) → Prop
  | blank {cs : List Char} (h : Padding cs) : Line cs none
  | comment {lead cs : List Char} {mark : Char} (hlead : Padding lead)
      (hmark : mark = '#' ∨ mark = '!') (hcs : Unbroken cs) : Line (lead ++ mark :: cs) none
  | entry {lead key before after value trail : List Char} {separator : Char}
      (hlead : Padding lead) (hkey : IsKey key) (hbefore : Padding before)
      (hseparator : separator = '=' ∨ separator = ':') (hafter : Padding after)
      (hvalue : IsValue value) (htrail : Padding trail) :
      Line (lead ++ (key ++ (before ++ separator :: (after ++ (value ++ trail)))))
        (some (String.ofList key, String.ofList value))

def lineEnds : List (List Char) := [['\n'], ['\r'], ['\r', '\n']]

/-- The text of a file, and the entries in it. The last line may have no end. -/
inductive File : List Char → List (String × String) → Prop
  | last {cs : List Char} {e : Option (String × String)} (h : Line cs e) : File cs e.toList
  | line {cs lineEnd rest : List Char} {e : Option (String × String)}
      {entries : List (String × String)} (h : Line cs e) (hend : lineEnd ∈ lineEnds)
      (hrest : File rest entries) : File (cs ++ (lineEnd ++ rest)) (e.toList ++ entries)

theorem isSeparator_of_isBlank {c : Char} (h : isBlank c = true) : isSeparator c = false := by
  have hfirst : isBlank '=' = false := rfl
  have hsecond : isBlank ':' = false := rfl
  simp only [isSeparator, Bool.or_eq_false_iff, beq_eq_false_iff_ne]
  constructor
  · rintro rfl
    cases hfirst.symm.trans h
  · rintro rfl
    cases hsecond.symm.trans h

theorem entry?_comment {mark : Char} (hmark : mark = '#' ∨ mark = '!') (lead cs : List Char)
    (hlead : Blanks lead) : entry? (lead ++ mark :: cs) = none := by
  have hvisible : isBlank mark = false := by
    rcases hmark with rfl | rfl <;> rfl
  obtain ⟨hfront, hne⟩ := Text.stripChars_prefix hvisible cs
  obtain ⟨c, rest, hstrip⟩ := List.exists_cons_of_ne_nil hne
  rw [hstrip] at hfront
  obtain rfl : c = mark := (List.cons_prefix_cons.mp hfront).1
  rw [ entry?, Text.stripChars_blanks_append hlead, hstrip]
  exact if_pos hmark

theorem entry?_entry {key before : List Char} {separator : Char} (hkey : IsKey key)
    (hbefore : Blanks before) (rest : List Char) (hseparator : separator = '=' ∨ separator = ':') :
    entry? (key ++ (before ++ separator :: rest)) =
      some (String.ofList key, String.ofList (stripChars rest)) := by
  have hvisible : isBlank separator = false := by
    rcases hseparator with rfl | rfl <;> rfl
  have hstops : isSeparator separator = true := by
    rcases hseparator with rfl | rfl <;> rfl
  obtain ⟨c, inner, rfl⟩ := List.exists_cons_of_ne_nil hkey.written
  obtain ⟨left, hleft, hstrip⟩ := Text.stripChars_around (hkey.bare.first c rfl) hvisible
    (inner ++ before) rest
  have hmark : ¬(c = '#' ∨ c = '!') := by
    simpa using hkey.unmarked
  have hpass : ∀ x ∈ c :: inner ++ before, (!isSeparator x) = true := by
    intro x hx
    rcases List.mem_append.mp hx with hx | hx
    · rw [hkey.whole x hx]
      rfl
    · rw [isSeparator_of_isBlank (hbefore x hx)]
      rfl
  have htake : (separator :: left).takeWhile (fun x => !isSeparator x) = [] := by simp [hstops]
  have hdrop : (separator :: left).dropWhile (fun x => !isSeparator x) = separator :: left := by
    simp [hstops]
  have hsplit : c :: (inner ++ before ++ separator :: left) =
      (c :: inner ++ before) ++ separator :: left := by simp
  rw [List.cons_append, ← List.append_assoc, entry?, hstrip]
  simp only [if_neg hmark]
  rw [hsplit, List.takeWhile_append_of_pos hpass, List.dropWhile_append_of_pos hpass, htake, hdrop,
    List.append_nil,
    Text.stripChars_append_blanks hbefore, Text.stripChars_bare hkey.bare, List.drop_one,
    List.tail_cons, hleft]

theorem Line.entry?_eq {cs : List Char} {e : Option (String × String)} (h : Line cs e) :
    entry? cs = e := by
  cases h with
  | blank h => rw [ entry?, Text.stripChars_blanks h.blank]
  | comment hlead hmark hcs => exact entry?_comment hmark _ _ hlead.blank
  | @entry lead key before after value trail separator hlead hkey hbefore hseparator hafter hvalue
      htrail =>
      have hentry := entry?_entry hkey hbefore.blank (after ++ (value ++ trail)) hseparator
      rw [Text.stripChars_blanks_append hafter.blank, Text.stripChars_append_blanks htrail.blank,
        Text.stripChars_bare hvalue.bare] at hentry
      rw [ entry?, Text.stripChars_blanks_append hlead.blank]
      exact hentry

theorem Line.unbroken {cs : List Char} {e : Option (String × String)} (h : Line cs e) :
    Unbroken cs := by
  have happend {a b : List Char} (ha : Unbroken a) (hb : Unbroken b) : Unbroken (a ++ b) :=
    List.forall_mem_append.mpr ⟨ha, hb⟩
  have hcons {c : Char} {a : List Char} (hc : c ≠ '\n' ∧ c ≠ '\r') (ha : Unbroken a) :
      Unbroken (c :: a) := List.forall_mem_cons.mpr ⟨hc, ha⟩
  cases h with
  | blank h => exact h.unbroken
  | comment hlead hmark hcs =>
      refine happend hlead.unbroken (hcons ?_ hcs)
      rcases hmark with rfl | rfl <;> decide
  | entry hlead hkey hbefore hseparator hafter hvalue htrail =>
      refine happend hlead.unbroken (happend hkey.unbroken (happend hbefore.unbroken (hcons ?_
        (happend hafter.unbroken (happend hvalue.unbroken htrail.unbroken)))))
      rcases hseparator with rfl | rfl <;> decide

theorem linesFrom_return (current rest : List Char) :
    ∃ lines, Text.linesFrom current ('\r' :: rest) = current.reverse :: lines ∧
      (Text.linesFrom [] rest = lines ∨ Text.linesFrom [] rest = [] :: lines) := by
  by_cases hfeed : ∃ more, rest = '\n' :: more
  · obtain ⟨more, rfl⟩ := hfeed
    refine ⟨Text.linesFrom [] more, by rw [Text.linesFrom], .inr ?_⟩
    rw [Text.linesFrom, if_pos (.inl rfl)]
    · rfl
    · exact fun _ hc => absurd hc (by decide)
  · refine ⟨Text.linesFrom [] rest, ?_, .inl rfl⟩
    rw [Text.linesFrom, if_pos (.inr rfl)]
    exact fun more _ hrest => hfeed ⟨more, hrest⟩

theorem filterMap_lineEnd {cs lineEnd : List Char} (hcs : Unbroken cs) (hend : lineEnd ∈ lineEnds)
    (rest : List Char) : (Text.linesFrom [] (cs ++ (lineEnd ++ rest))).filterMap entry? =
      ( entry? cs).toList ++ (Text.linesFrom [] rest).filterMap entry? := by
  have hlines (lines : List (List Char)) :
      (cs :: lines).filterMap entry? = ( entry? cs).toList ++ lines.filterMap entry? := by
    rw [List.filterMap_cons]
    cases entry? cs <;> rfl
  have hempty (lines : List (List Char)) :
      ([] :: lines).filterMap entry? = lines.filterMap entry? := rfl
  have hcurrent : (cs.reverse ++ []).reverse = cs := by simp
  rw [Text.linesFrom_append hcs]
  simp only [lineEnds, List.mem_cons, List.not_mem_nil, or_false] at hend
  rcases hend with rfl | rfl | rfl
  · rw [List.singleton_append, Text.linesFrom, if_pos (.inl rfl), hcurrent, hlines]
    exact fun _ hc => absurd hc (by decide)
  · obtain ⟨lines, hfirst, hrest⟩ := linesFrom_return (cs.reverse ++ []) rest
    rw [List.singleton_append, hfirst, hcurrent, hlines]
    rcases hrest with heq | heq
    · rw [heq]
    · rw [heq, hempty]
  · rw [List.cons_append, List.singleton_append, Text.linesFrom, hcurrent, hlines]

theorem File.entries_eq {cs : List Char} {entries : List (String × String)} (h : File cs entries) :
    (Text.linesFrom [] cs).filterMap entry? = entries := by
  induction h with
  | @last cs e h =>
      rw [← h.entry?_eq]
      by_cases hne : cs = []
      · rw [hne]
        rfl
      · rw [Text.linesFrom_unended h.unbroken [] (.inr hne), List.reverse_nil, List.nil_append,
          List.filterMap_cons, List.filterMap_nil]
        cases entry? cs <;> rfl
  | line h hend hrest ih => rw [filterMap_lineEnd h.unbroken hend, h.entry?_eq, ih]

/-- The value that the last entry of a key has. -/
def last? (entries : List (String × String)) (key : String) : Option String :=
  entries.reverse.lookup key

theorem lookup_cons_eq {α : Type} (k key : String) (v : α) (entries : List (String × α)) :
    ((k, v) :: entries).lookup key = if key = k then some v else entries.lookup key := by
  rw [List.lookup_cons]
  split
  · rename_i h
    rw [if_pos (beq_iff_eq.mp h)]
  · rename_i h
    rw [if_neg (beq_eq_false_iff_ne.mp h)]

theorem lookup_put (entries : List (String × String)) (k v key : String) :
    (put entries k v).lookup key = if key = k then some v else entries.lookup key := by
  induction entries with
  | nil => exact lookup_cons_eq k key v []
  | cons e entries ih =>
      obtain ⟨name, old⟩ := e
      rw [put]
      split
      · rename_i hname
        rw [lookup_cons_eq, lookup_cons_eq, hname]
        split <;> rfl
      · rename_i hname
        rw [lookup_cons_eq, lookup_cons_eq, ih]
        by_cases hkey : key = name
        · rw [if_pos hkey, if_pos hkey, if_neg fun h => hname (hkey.symm.trans h)]
        · rw [if_neg hkey, if_neg hkey]

theorem lookup_foldl_put (entries old : List (String × String)) (key : String) :
    (entries.foldl (fun es e => put es e.1 e.2) old).lookup key =
      (last? entries key).or (old.lookup key) := by
  induction entries generalizing old with
  | nil => rfl
  | cons e entries ih =>
      rw [List.foldl_cons, ih, lookup_put, last?, last?, List.reverse_cons, List.lookup_append,
        Option.or_assoc, lookup_cons_eq]
      split <;> rfl

theorem mem_keys_put {entries : List (String × String)} {k v key : String}
    (h : key ∈ (put entries k v).map (·.1)) : key = k ∨ key ∈ entries.map (·.1) := by
  induction entries with
  | nil => exact .inl (by simpa [put] using h)
  | cons e entries ih =>
      obtain ⟨name, old⟩ := e
      rw [put] at h
      split at h
      · exact .inr (by simpa using h)
      · rcases List.mem_cons.mp h with heq | hmem
        · exact .inr (List.mem_cons.mpr (.inl heq))
        · exact (ih hmem).imp_right (List.mem_cons_of_mem _)

theorem nodup_put {entries : List (String × String)} (h : (entries.map (·.1)).Nodup)
    (k v : String) : ((put entries k v).map (·.1)).Nodup := by
  induction entries with
  | nil => simp [put]
  | cons e entries ih =>
      obtain ⟨name, old⟩ := e
      obtain ⟨hname, hrest⟩ := List.nodup_cons.mp h
      rw [put]
      split
      · exact h
      · rename_i hne
        refine List.nodup_cons.mpr ⟨fun hmem => ?_, ih hrest⟩
        rcases mem_keys_put hmem with heq | hold
        · exact hne heq
        · exact hname hold

theorem nodup_foldl_put {old : List (String × String)} (h : (old.map (·.1)).Nodup)
    (entries : List (String × String)) :
    ((entries.foldl (fun es e => put es e.1 e.2) old).map (·.1)).Nodup := by
  induction entries generalizing old with
  | nil => exact h
  | cons e entries ih => exact ih (nodup_put h e.1 e.2)

/-- A file is read as the map from each of its keys to the value of the last entry of the key. -/
theorem File.read {text : String} {entries : List (String × String)}
    (h : File text.toList entries) : ∃ properties, ofBytes? (Utf8.encode text) = some properties ∧
      (properties.map (·.1)).Nodup ∧ ∀ key, properties.lookup key = last? entries key := by
  have hread : ofBytes? (Utf8.encode text) = some (Properties.read text) := by
    rw [ofBytes?, Utf8.decode?_eq_some_iff.mpr rfl, Option.map_some]
  refine ⟨Properties.read text, hread, ?_, fun key => ?_⟩
  · have hnil : (([] : List (String × String)).map (·.1)).Nodup := List.nodup_nil
    exact nodup_foldl_put hnil _
  · rw [Properties.read, h.entries_eq, lookup_foldl_put, List.lookup_nil, Option.or_none]

end Properties

namespace Settings

open Properties (File last? lookup_cons_eq)
open Text (Unbroken)

def fileValue (entries : List (String × String)) (f : Field) : Option Json :=
  (f.property?.bind fun key => last? entries key).map .text

def otherNames (options : List (String × Json)) : List String :=
  ((present options).map (·.1)).filter fun n => (Field.ofName? n).isNone

/-- What a field is given: its option, if there is one that is not empty, else its value in a file,
if there is one. -/
def given (entries : List (String × String)) (options : List (String × Json)) (f : Field) :
    Option Json :=
  ((present options).lookup f.name).or (fileValue entries f)

theorem layered_eq {properties entries : List (String × String)}
    (hread : ∀ key, properties.lookup key = last? entries key) (options : List (String × Json)) :
    layered properties options = given entries options := by
  funext f
  simp only [layered, given, fileValue, hread]
  cases (present options).lookup f.name <;> rfl

theorem load_eq {properties entries : List (String × String)}
    (hread : ∀ key, properties.lookup key = last? entries key) (options : List (String × Json)) :
    load properties options = validate (given entries options) (otherNames options) :=
  congrArg (validate · _) (layered_eq hread options)

/-- A file is read as the map from each key to its last value. Settings are then accepted when every
option is that of a field and every field takes what it is given, by its option or else by the file;
it has its standard value when it is given none. If not, the flaws are those of the values that are
refused and of the options of no field. Two files make no difference when they agree on the fields
without options. -/
theorem load_layers (text : String) {entries : List (String × String)}
    (h : File text.toList entries) (options : List (String × Json)) :
    ∃ properties, Properties.ofBytes? (Utf8.encode text) = some properties ∧
      (properties.map (·.1)).Nodup ∧ (∀ key, properties.lookup key = last? entries key) ∧
      (∀ s, load properties options = .ok s ↔
        otherNames options = [] ∧ ∀ f, s.Takes f (given entries options f)) ∧
      (∀ flaws, load properties options = .error flaws ↔
        flaws ≠ [] ∧ flaws = refusals (given entries options) (otherNames options)) ∧
      ∀ other otherEntries otherProperties, File (String.toList other) otherEntries →
        Properties.ofBytes? (Utf8.encode other) = some otherProperties →
        (∀ f : Field, (present options).lookup f.name = none →
          fileValue otherEntries f = fileValue entries f) →
        load otherProperties options = load properties options := by
  obtain ⟨properties, hfile, hkeys, hread⟩ := h.read
  refine ⟨properties, hfile, hkeys, hread, ?_, ?_, ?_⟩
  · intro s
    rw [load_eq hread]
    exact validate_eq_ok_iff
  · intro flaws
    rw [load_eq hread]
    exact validate_eq_error_iff
  · intro other otherEntries otherProperties hother hotherFile hsame
    obtain ⟨sameProperties, hsameFile, -, hotherRead⟩ := hother.read
    obtain rfl := Option.some.inj (hsameFile.symm.trans hotherFile)
    have hgiven : given otherEntries options = given entries options := by
      funext f
      rw [given, given]
      cases hoption : (present options).lookup f.name with
      | none => rw [hsame f hoption]
      | some j => rfl
    rw [load_eq hotherRead, load_eq hread, hgiven]

/-- The last address counts and keeps its colons, and the table is that of the option. The width in
the file is no number, which counts for nothing while there is an option for it. -/
theorem load_layers_repeated : ∃ properties,
    Properties.ofBytes? (Utf8.encode ("! a\r\n\ntsd.storage.hbase.rest_url = b\n" ++
      "tsd.storage.hbase.rest_url:http://a:1 \ntsd.storage.uid.width.metric=x")) =
        some properties ∧
    properties.lookup "tsd.storage.hbase.rest_url" = some "http://a:1" ∧
    load properties [("data_table", .text "rows"), ("metric_width", .whole 4)] =
      .ok { standard with restUrl := "http://a:1", dataTable := "rows", metricWidth := 4 } ∧
    load properties [("metric_width", .whole 9), ("table", .text "rows")] =
      .error [("metric_width", .aboveGreatest), ("table", .extra)] ∧
    load properties [("metric_width", .null)] = .error [("metric_width", .intParsing)] := by
  have haddress : Properties.IsKey "tsd.storage.hbase.rest_url".toList := by decide
  have hwidth : Properties.IsKey "tsd.storage.uid.width.metric".toList := by decide
  have hnone : Properties.Padding [] := by decide
  have hone : Properties.Padding [' '] := by decide
  have hfeed : ['\n'] ∈ Properties.lineEnds := by decide
  have hreturn : ['\r', '\n'] ∈ Properties.lineEnds := by decide
  have hfirst := Properties.Line.comment hnone (.inr rfl) (show Unbroken [' ', 'a'] by decide)
  have hthird := Properties.Line.entry hnone haddress hone (.inl rfl) hone
    (show Properties.IsValue ['b'] by decide) hnone
  have hfourth := Properties.Line.entry hnone haddress hnone (.inr rfl) hnone
    (show Properties.IsValue "http://a:1".toList by decide) hone
  have hlast := Properties.Line.entry hnone hwidth hnone (.inl rfl) hnone
    (show Properties.IsValue ['x'] by decide) hnone
  have hfile := File.line hfirst hreturn (.line (.blank hnone) hfeed (.line hthird hfeed
    (.line hfourth hfeed (.last hlast))))
  have hload := load_layers ("! a\r\n\ntsd.storage.hbase.rest_url = b\n" ++
    "tsd.storage.hbase.rest_url:http://a:1 \ntsd.storage.uid.width.metric=x") hfile
  obtain ⟨properties, hread, -, hvalues, haccepts, -⟩ :=
    hload [("data_table", .text "rows"), ("metric_width", .whole 4)]
  refine ⟨properties, hread, hvalues _, ?_, ?_, ?_⟩
  · refine (haccepts _).mpr ⟨by decide, ?_⟩
    intro f
    cases f <;> rfl
  · obtain ⟨_, hsame, -, -, -, hrefuses, -⟩ :=
      hload [("metric_width", .whole 9), ("table", .text "rows")]
    obtain rfl := Option.some.inj (hread.symm.trans hsame)
    exact (hrefuses _).mpr ⟨List.cons_ne_nil _ _, by decide⟩
  · obtain ⟨_, hsame, -, -, -, hrefuses, -⟩ := hload [("metric_width", .null)]
    obtain rfl := Option.some.inj (hread.symm.trans hsame)
    exact (hrefuses _).mpr ⟨List.cons_ne_nil _ _, by decide⟩

end Settings

end RawSeries
