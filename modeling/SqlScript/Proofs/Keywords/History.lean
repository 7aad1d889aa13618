import SqlScript.Proofs.Keywords.Registration

/-!
What a line finds after any number of registrations. A registration is known by its text in upper
case with single spaces, cut to the words that are compared, and a beginning of a line by the text
of its words. Two of these texts are the same exactly if the words are, so the longest beginning of
the line that has been registered decides, with the kind that it was registered under last.
-/

namespace SqlScript

open Text

/-! ### Phrases as texts -/

namespace Phrase

/-- The words of a phrase with single spaces between them. -/
def spelling (phrase : Phrase) : Text := join [' '] phrase

/-- The text that a registration is known by. -/
def normalized (text : Text) : Text := spelling (((words text).take maxWords).map asciiUpper)

/-- The text of the first `n` words that a line begins with. -/
def beginning (n : Nat) (line : Text) : Text := spelling ((leading line).take n)

/-- Whether the words of a phrase can be told apart when spaces stand between them. -/
def IsApart (phrase : Phrase) : Prop := ∀ w ∈ phrase, w ≠ [] ∧ ∀ c ∈ w, isBlank c = false

theorem IsApart.take {phrase : Phrase} (h : IsApart phrase) (n : Nat) : IsApart (phrase.take n) :=
  fun w hw => h w (List.mem_of_mem_take hw)

theorem isApart_map_asciiUpper {ws : List Text} (h : IsApart ws) : IsApart (ws.map asciiUpper) := by
  refine List.forall_mem_map.mpr fun w hw => ?_
  obtain ⟨hne, hblank⟩ := h w hw
  refine ⟨mt asciiUpper_eq_nil_iff.mp hne, List.forall_mem_map.mpr fun c hc => ?_⟩
  rw [isBlank_toUpper, hblank c hc]

theorem isApart_words (s : Text) : IsApart (words s) :=
  fun _ hw => ⟨words_ne_nil hw, fun _ hc => isBlank_of_mem_words hw hc⟩

/-- The words that a line begins with are parts of its words. -/
theorem isApart_leadingKeywords {ws : List Text} (h : IsApart ws) :
    IsApart (leadingKeywords ws) := by
  induction ws with
  | nil => exact h
  | cons w ws ih =>
      obtain ⟨⟨-, hw⟩, hws⟩ := List.forall_mem_cons.mp h
      have hpart : keywordPart w ≠ [] → IsApart ([keywordPart w].map asciiUpper) := by
        intro hne
        refine isApart_map_asciiUpper (List.forall_mem_singleton.mpr ⟨hne, fun c hc => ?_⟩)
        exact hw c ((keywordPart_prefix_self w).subset hc)
      rw [leadingKeywords]
      split_ifs with hnil hself
      · exact List.forall_mem_nil _
      · rw [hself] at hnil hpart
        exact List.forall_mem_cons.mpr ⟨(hpart hnil) _ List.mem_cons_self, ih hws⟩
      · exact hpart hnil

theorem isApart_leading (line : Text) : IsApart (leading line) :=
  isApart_leadingKeywords ((isApart_words _).take maxWords)

theorem spelling_inj {phrase other : Phrase} (h : IsApart phrase) (ho : IsApart other) :
    spelling phrase = spelling other ↔ phrase = other := by
  refine ⟨fun hsame => ?_, congrArg spelling⟩
  rw [← words_join h, ← words_join ho]
  exact congrArg words hsame

/-- In ASCII the two upper cases are one, so a registration is known by its phrase. -/
theorem ofText_of_isAscii {text : Text} (h : IsAscii text) :
    ofText text = ((words text).take maxWords).map asciiUpper := by
  refine List.map_congr_left fun w hw => upper_of_ascii fun c hc => h c ?_
  exact List.mem_of_mem_filter (mem_ink_of_mem_words (List.mem_of_mem_take hw) hc)

theorem normalized_eq_spelling_iff {text : Text} (h : IsAscii text) {phrase : Phrase}
    (hphrase : IsApart phrase) : normalized text = spelling phrase ↔ ofText text = phrase := by
  rw [ofText_of_isAscii h, normalized]
  exact spelling_inj (isApart_map_asciiUpper ((isApart_words text).take maxWords)) hphrase

end Phrase

open Phrase

namespace Keywords

variable {keywords : Keywords}

/-! ### The table after some registrations -/

def registerAll (keywords : Keywords) (registrations : List (Text × Kind)) : Keywords :=
  registrations.foldl (fun keywords (text, kind) => keywords.register text kind) keywords

def standardRegistrations : List (Text × Kind) :=
  standardPhrases.map fun (phrase, kind) => (phrase.toList, kind)

def plainRegistrations : List (Text × Kind) :=
  let phrases : List (String × Kind) :=
    queryPhrases.map (·, .query) ++ dmlPhrases.map (·, .dml) ++ ddlPhrases.map (·, .ddl) ++
      transactionPhrases.map (·, .transaction) ++ sessionPhrases.map (·, .session) ++
      blockPhrases.map (·, .block) ++ commandPhrases.map (·, .command)
  phrases.map fun (phrase, kind) => (phrase.toList, kind)

def storedRegistrations : List (Text × Kind) :=
  creationPhrases.flatMap fun creation => programPhrases.map fun program =>
    (creation.toList ++ ' ' :: program.toList, .storedProgram)

/-- The kind of the last of some registrations that are known by a text. -/
def lastKind? (registrations : List (Text × Kind)) (text : Text) : Option Kind :=
  (registrations.filter fun registration => normalized registration.1 = text).getLast?.map Prod.snd

theorem standard_eq_registerAll : standard = empty.registerAll standardRegistrations := by
  rw [standard, registerAll, standardRegistrations, List.foldl_map]

theorem registerAll_append (before after : List (Text × Kind)) :
    keywords.registerAll (before ++ after) = (keywords.registerAll before).registerAll after :=
  List.foldl_append

/-- By induction on the registrations, of which the last one is looked at first. -/
theorem get?_registerAll (registrations : List (Text × Kind)) {phrase : Phrase}
    (hne : phrase ≠ []) : (empty.registerAll registrations).get? phrase =
      (registrations.filter fun registration => ofText registration.1 = phrase).getLast?.map
        Prod.snd := by
  induction registrations using List.reverseRecOn with
  | nil => rfl
  | append_singleton registrations registration ih =>
      have hlater : empty.registerAll (registrations ++ [registration]) =
          (empty.registerAll registrations).register registration.1 registration.2 :=
        registerAll_append _ _
      rw [hlater, get?_register, ih, List.filter_append]
      by_cases hsame : ofText registration.1 = phrase
      · rw [if_pos ⟨hsame.symm, hne⟩]
        simp [hsame]
      · rw [if_neg fun h => hsame h.1.symm]
        simp [hsame]

theorem get?_registerAll_eq_lastKind? {registrations : List (Text × Kind)}
    (h : ∀ registration ∈ registrations, IsAscii registration.1) {phrase : Phrase}
    (hphrase : IsApart phrase) (hne : phrase ≠ []) :
    (empty.registerAll registrations).get? phrase =
      lastKind? registrations (spelling phrase) := by
  rw [get?_registerAll _ hne, lastKind?]
  refine congrArg (fun found => (List.getLast? found).map Prod.snd) (List.filter_congr ?_)
  intro registration hmem
  exact decide_eq_decide.mpr (normalized_eq_spelling_iff (h registration hmem) hphrase).symm

/-! ### The longest phrase -/

theorem findSome?_range_eq_some_iff {α : Type} {f : Nat → Option α} {k : Nat} {a : α} :
    (List.range k).reverse.findSome? f = some a ↔
      ∃ n < k, f n = some a ∧ ∀ m, n < m → m < k → f m = none := by
  induction k with
  | zero => simp
  | succ k ih =>
      rw [List.range_succ, List.reverse_concat, List.findSome?_cons]
      cases hk : f k with
      | some b =>
          refine ⟨fun hb => ⟨k, k.lt_succ_self, hk.trans hb, fun m hm hlt => by omega⟩, ?_⟩
          rintro ⟨n, hn, hf, hlater⟩
          rcases Nat.lt_succ_iff_lt_or_eq.mp hn with hlt | rfl
          · exact absurd (hk.symm.trans (hlater k hlt k.lt_succ_self)) (Option.some_ne_none b)
          · exact hk.symm.trans hf
      | none =>
          rw [ih]
          constructor
          · rintro ⟨n, hn, hf, hlater⟩
            refine ⟨n, by omega, hf, fun m hm hlt => ?_⟩
            rcases Nat.lt_succ_iff_lt_or_eq.mp hlt with hlt | rfl
            · exact hlater m hm hlt
            · exact hk
          · rintro ⟨n, hn, hf, hlater⟩
            rcases Nat.lt_succ_iff_lt_or_eq.mp hn with hlt | rfl
            · exact ⟨n, hlt, hf, fun m hm hmk => hlater m hm (by omega)⟩
            · exact absurd (hk.symm.trans hf) (Option.some_ne_none a).symm

/-- The kind is that of a beginning, and no longer one is registered. -/
theorem longest?_eq_some_iff {phrase : Phrase} {kind : Kind} :
    keywords.longest? phrase = some kind ↔ ∃ n, 0 < n ∧ n ≤ phrase.length ∧
      keywords.get? (phrase.take n) = some kind ∧
        ∀ m, n < m → m ≤ phrase.length → keywords.get? (phrase.take m) = none := by
  rw [longest?, findSome?_range_eq_some_iff]
  constructor
  · rintro ⟨n, hn, hkind, hlater⟩
    refine ⟨n + 1, n.succ_pos, hn, hkind, fun m hm hle => ?_⟩
    obtain ⟨m, rfl⟩ := Nat.exists_eq_succ_of_ne_zero (Nat.ne_of_gt (Nat.zero_lt_of_lt hm))
    exact hlater m (by omega) hle
  · rintro ⟨n, hpos, hn, hkind, hlater⟩
    obtain ⟨n, rfl⟩ := Nat.exists_eq_succ_of_ne_zero hpos.ne'
    exact ⟨n, hn, hkind, fun m hm hlt => hlater (m + 1) (by omega) hlt⟩

theorem longest?_cons_eq_some_iff {first : Text} {others : Phrase} {kind : Kind} :
    keywords.longest? (first :: others) = some kind ↔ ∃ n < others.length + 1,
      keywords.get? (first :: others.take n) = some kind ∧
        ∀ m, n < m → m < others.length + 1 → keywords.get? (first :: others.take m) = none :=
  findSome?_range_eq_some_iff

theorem longest?_eq_none_iff {phrase : Phrase} : keywords.longest? phrase = none ↔
    ∀ n, 0 < n → n ≤ phrase.length → keywords.get? (phrase.take n) = none := by
  rw [longest?, List.findSome?_eq_none_iff]
  simp only [List.mem_reverse, List.mem_range]
  refine ⟨fun h n hpos hn => ?_, fun h n hn => h (n + 1) n.succ_pos hn⟩
  obtain ⟨n, rfl⟩ := Nat.exists_eq_succ_of_ne_zero hpos.ne'
  exact h n hn

/-! ### The kind of a line -/

/-- Whether a word begins with one of the three characters that mark a command. -/
def IsMarked (word : Text) : Prop :=
  word.head? = some '\\' ∨ word.head? = some '@' ∨ word.head? = some '!'

instance (word : Text) : Decidable (IsMarked word) := inferInstanceAs (Decidable (_ ∨ _))

theorem isMarked_iff {word : Text} : IsMarked word ↔ word.head?.any isCommandMarker := by
  cases h : word.head? with
  | none => simp [IsMarked, h]
  | some c => simp [IsMarked, h, isCommandMarker, or_assoc]

/-- Whether a line is left to the registered phrases. -/
structure IsLeft (line : Text) : Prop where
  hasWord : leading line ≠ []
  notBegin : ¬(leading line = ["BEGIN".toList] ∧ (trimEnd line).getLast? = some ';')
  notMarked : ∀ first ∈ (leading line).head?, ¬IsMarked first

/-- How a line gets its kind, where `kind?` tells the kind that a text is registered under. -/
inductive Decides (kind? : Text → Option Kind) (line : Text) : Kind → Prop
  | wordless (h : leading line = []) : Decides kind? line .unknown
  | transaction (h : leading line = ["BEGIN".toList]) (hend : (trimEnd line).getLast? = some ';') :
      Decides kind? line .transaction
  | command {first : Text} (h : first ∈ (leading line).head?) (hmarked : IsMarked first) :
      Decides kind? line .command
  | registered {n : Nat} {kind : Kind} (hline : IsLeft line) (hpos : 0 < n)
      (hn : n ≤ (leading line).length) (hkind : kind? (beginning n line) = some kind)
      (hlonger : ∀ m, n < m → m ≤ (leading line).length → kind? (beginning m line) = none) :
      Decides kind? line kind
  | unregistered (hline : IsLeft line)
      (hnone : ∀ n, 0 < n → n ≤ (leading line).length → kind? (beginning n line) = none) :
      Decides kind? line .unknown

/-- A table and the registrations that it is made of. -/
inductive MadeOf : Keywords → List (Text × Kind) → Prop
  | empty : MadeOf empty []
  | standard : MadeOf standard standardRegistrations

theorem classify_of_isLeft (keywords : Keywords) {line : Text} (h : IsLeft line) :
    keywords.classify line = (keywords.longest? (leading line)).getD .unknown := by
  obtain ⟨hword, hbegin, hmarked⟩ := h
  rw [classify]
  cases hleading : leading line with
  | nil => exact absurd hleading hword
  | cons first others =>
      rw [hleading] at hbegin hmarked
      have hfirst := mt isMarked_iff.mpr (hmarked first rfl)
      have hnot : ¬(first = "BEGIN".toList ∧ others = [] ∧ (trimEnd line).getLast? = some ';') := by
        rintro ⟨rfl, rfl, hend⟩
        exact hbegin ⟨rfl, hend⟩
      simp only [if_neg hnot, if_neg hfirst]

theorem standardRegistrations_eq_append :
    standardRegistrations = plainRegistrations ++ storedRegistrations := by
  have hspace : " ".toList = [' '] := by decide
  rw [standardRegistrations, standardPhrases, List.map_append]
  refine congrArg (plainRegistrations ++ ·) ?_
  simp only [storedProgramPhrases, storedRegistrations, List.map_flatMap, List.map_map,
    Function.comp_def, String.toList_append, hspace, List.append_assoc, List.singleton_append]

set_option maxRecDepth 4000 in
theorem ascii_standardRegistrations :
    ∀ registration ∈ standardRegistrations, IsAscii registration.1 := by
  rw [standardRegistrations_eq_append, List.forall_mem_append]
  exact ⟨by decide, by decide⟩

theorem MadeOf.eq_registerAll {earlier : List (Text × Kind)} (h : MadeOf keywords earlier) :
    keywords = Keywords.empty.registerAll earlier := by
  cases h with
  | empty => rfl
  | standard => exact standard_eq_registerAll

theorem MadeOf.ascii {earlier : List (Text × Kind)} (h : MadeOf keywords earlier) :
    ∀ registration ∈ earlier, IsAscii registration.1 := by
  cases h with
  | empty => exact List.forall_mem_nil _
  | standard => exact ascii_standardRegistrations

section

variable {registrations : List (Text × Kind)}
  (hascii : ∀ registration ∈ registrations, IsAscii registration.1) {line : Text}

include hascii

theorem get?_take_leading (hword : leading line ≠ []) {n : Nat} (hpos : 0 < n) :
    (empty.registerAll registrations).get? ((leading line).take n) =
      lastKind? registrations (beginning n line) := by
  refine get?_registerAll_eq_lastKind? hascii ((isApart_leading line).take n) ?_
  simp [hword, hpos.ne']

theorem decides_classify :
    Decides (lastKind? registrations) line ((empty.registerAll registrations).classify line) := by
  by_cases hleft : IsLeft line
  · rw [classify_of_isLeft _ hleft]
    have hget := fun {n : Nat} => get?_take_leading hascii hleft.hasWord (n := n)
    cases hlongest : (empty.registerAll registrations).longest? (leading line) with
    | none =>
        refine .unregistered hleft fun n hpos hn => ?_
        rw [← hget hpos]
        exact longest?_eq_none_iff.mp hlongest n hpos hn
    | some kind =>
        obtain ⟨n, hpos, hn, hkind, hlonger⟩ := longest?_eq_some_iff.mp hlongest
        refine .registered hleft hpos hn (hget hpos ▸ hkind) fun m hm hle => ?_
        rw [← hget (by omega)]
        exact hlonger m hm hle
  · rw [classify]
    cases hleading : leading line with
    | nil => exact .wordless hleading
    | cons first others =>
        dsimp only
        split_ifs with hbegin hmarker
        · obtain ⟨rfl, rfl, hend⟩ := hbegin
          exact .transaction hleading hend
        · exact .command (by rw [hleading]; rfl) (isMarked_iff.mpr hmarker)
        · refine absurd ⟨by simp [hleading], ?_, ?_⟩ hleft
          · rintro ⟨h, hend⟩
            obtain ⟨rfl, rfl⟩ := List.cons.inj (hleading.symm.trans h)
            exact hbegin ⟨rfl, rfl, hend⟩
          · rintro _ hfirst
            rw [hleading] at hfirst
            obtain rfl := Option.some.inj hfirst
            exact mt isMarked_iff.mp hmarker

theorem Decides.classify_eq {kind : Kind} (h : Decides (lastKind? registrations) line kind) :
    (empty.registerAll registrations).classify line = kind := by
  cases h with
  | wordless h => simp only [classify, h]
  | transaction h hend => simp only [classify, h, hend, and_self, if_true]
  | @command first h hmarked =>
      obtain ⟨others, hleading⟩ := List.head?_eq_some_iff.mp h
      have hnot : first ≠ "BEGIN".toList := by
        rintro rfl
        exact absurd hmarked (by decide)
      have hmarker := isMarked_iff.mp hmarked
      simp only [classify, hleading, hnot, false_and, if_false, if_pos hmarker]
  | @registered n _ hline hpos hn hkind hlonger =>
      have hget := fun {n : Nat} => get?_take_leading hascii hline.hasWord (n := n)
      have hlongest := longest?_eq_some_iff.mpr
        ⟨n, hpos, hn, (hget hpos).trans hkind, fun m hm hle =>
          (hget (by omega)).trans (hlonger m hm hle)⟩
      rw [classify_of_isLeft _ hline, hlongest]
      rfl
  | unregistered hline hnone =>
      have hlongest := longest?_eq_none_iff.mpr fun n hpos hn =>
        (get?_take_leading hascii hline.hasWord hpos).trans (hnone n hpos hn)
      rw [classify_of_isLeft _ hline, hlongest]
      rfl

end

theorem lastKind?_append (before after : List (Text × Kind)) (text : Text) :
    lastKind? (before ++ after) text = (lastKind? after text).or (lastKind? before text) := by
  rw [lastKind?, List.filter_append, List.getLast?_append, Option.map_or, lastKind?, lastKind?]

theorem lastKind?_swap (before after : List (Text × Kind)) {first second : Text × Kind}
    (h : normalized first.1 ≠ normalized second.1) :
    lastKind? (before ++ first :: second :: after) =
      lastKind? (before ++ second :: first :: after) := by
  funext text
  -- At most one of the two is known by the text.
  have hfilter : (first :: second :: after).filter (fun registration =>
      normalized registration.1 = text) = (second :: first :: after).filter (fun registration =>
        normalized registration.1 = text) := by
    by_cases hfirst : normalized first.1 = text
    · have hsecond : normalized second.1 ≠ text := fun heq => h (hfirst.trans heq.symm)
      simp [hfirst, hsecond]
    · simp [List.filter_cons, hfirst]
  rw [lastKind?, lastKind?, List.filter_append, hfilter, ← List.filter_append]

/-- A line is of the kind that the longest registered text it begins with was registered under last,
and registrations that are known by different texts can be exchanged. -/
theorem classify_registerAll {earlier : List (Text × Kind)} (hmade : MadeOf keywords earlier)
    (registrations : List (Text × Kind))
    (hascii : ∀ registration ∈ registrations, IsAscii registration.1) (line : Text) :
    (∀ kind, (keywords.registerAll registrations).classify line = kind ↔
        Decides (lastKind? (earlier ++ registrations)) line kind) ∧
      ∀ before first second after, registrations = before ++ first :: second :: after →
        normalized first.1 ≠ normalized second.1 →
          (keywords.registerAll registrations).classify line =
            (keywords.registerAll (before ++ second :: first :: after)).classify line := by
  have hrule {later : List (Text × Kind)} (h : ∀ registration ∈ later, IsAscii registration.1)
      (kind : Kind) : (keywords.registerAll later).classify line = kind ↔
        Decides (lastKind? (earlier ++ later)) line kind := by
    have hall := List.forall_mem_append.mpr ⟨hmade.ascii, h⟩
    rw [hmade.eq_registerAll, ← registerAll_append]
    exact ⟨fun heq => heq ▸ decides_classify hall, fun hdecides => hdecides.classify_eq hall⟩
  refine ⟨hrule hascii, ?_⟩
  rintro before first second after rfl hdiffer
  have hswapped : ∀ registration ∈ before ++ second :: first :: after,
      IsAscii registration.1 := by
    intro registration hmem
    refine hascii registration ?_
    simpa [or_left_comm] using hmem
  rw [hrule hascii, ← List.append_assoc, lastKind?_swap _ after hdiffer, List.append_assoc,
    ← hrule hswapped]

/-- The later of two registrations of one phrase counts, against a shorter phrase of the standard
table, and it can be made after the registration of another phrase. A marked word is a command
whatever is registered. -/
theorem classify_registerAll_later :
    let first : Text × Kind := ("Upsert  Into", .ddl)
    let later : Text × Kind := (" upsert\tinto ", .command)
    let other : Text × Kind := ("merge into", .session)
    let registrations := [first, later, other]
    let line := "upsert into(t) values (1);".toList
    MadeOf standard standardRegistrations ∧
      (∀ registration ∈ registrations, IsAscii registration.1) ∧
      Decides (lastKind? (standardRegistrations ++ registrations)) line .command ∧
      (standard.registerAll registrations).classify line = .command ∧
      normalized later.1 ≠ normalized other.1 ∧
      (standard.registerAll registrations).classify line =
        (standard.registerAll [first, other, later]).classify line ∧
      ∀ marked ∈ ["\\connect upsert".toList, "@load.sql".toList, "! upsert into".toList],
        (standard.registerAll registrations).classify marked = .command := by
  intro first later other registrations line
  have hascii : ∀ registration ∈ registrations, IsAscii registration.1 := by decide
  have hdiffer : normalized later.1 ≠ normalized other.1 := by decide
  have hleft : IsLeft line := ⟨by decide, by decide, by decide⟩
  have hkind : lastKind? (standardRegistrations ++ registrations) (beginning 2 line) =
      some .command := by
    have hlast : lastKind? registrations (beginning 2 line) = some .command := by decide
    rw [lastKind?_append, hlast]
    rfl
  have hlength : (leading line).length = 2 := by decide
  have hdecides : Decides (lastKind? (standardRegistrations ++ registrations)) line .command :=
    .registered hleft Nat.two_pos hlength.ge hkind fun m hm hle => by omega
  have hmarked : ∀ marked ∈ ["\\connect upsert".toList, "@load.sql".toList,
      "! upsert into".toList], ∃ word ∈ (leading marked).head?, IsMarked word := by decide
  obtain ⟨hrule, hswap⟩ := classify_registerAll .standard registrations hascii line
  refine ⟨.standard, hascii, hdecides, (hrule _).mpr hdecides, hdiffer,
    hswap [first] later other [] rfl hdiffer, fun marked hmem => ?_⟩
  obtain ⟨word, hword, hmark⟩ := hmarked marked hmem
  obtain ⟨hcommand, -⟩ := classify_registerAll .standard registrations hascii marked
  exact (hcommand _).mpr (.command hword hmark)

end Keywords

end SqlScript
