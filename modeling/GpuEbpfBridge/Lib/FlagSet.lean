import Mathlib.Data.String.Basic
import GpuEbpfBridge.Lib.WriteLog

/-! # Command lines with flags

`FlagSet.parse` is the parser of Go's package `flag`: it reads one word after the other, writes the
variable of each flag, and stops at the first word that is none, after `--`, or at an error.

Beside it stands the grammar of command lines.  `Spells` lists the words that set a flag, with one dash
or two, the value after `=` or in the next word; `Sets` is a sequence of such settings, `Stops` and
`Fails` are what ends it.  Every command line is a sequence of accepted settings and one of these ends
(`accepted_or_refused`), and `parse` gives the variables after the settings, or the error
(`parse_accepted`, `parse_refused`).

Words are Unicode text.  The usage text that `Parse` prints, and what it leaves in the variables after an
error, are left out. -/

namespace GpuEbpfBridge.Lib

/-! ### Words -/

/-- A word of the command line: no flag, the end of the flags, or a flag and the value after `=`. -/
inductive Word where
  | operand
  | terminator
  | badSyntax
  | flag (name : String) (value : Option String)
deriving DecidableEq, Repr

/-- A word without its dashes. -/
def readFlag : List Char → Word
  | [] => .badSyntax
  | c :: cs =>
      if c = '-' ∨ c = '=' then .badSyntax
      else
        -- the first `=`, which is not the first character
        match cs.dropWhile (· != '=') with
        | [] => .flag (String.ofList (c :: cs)) none
        | _ :: value =>
            .flag (String.ofList (c :: cs.takeWhile (· != '='))) (some (String.ofList value))

/-- A word. -/
def readWord (word : String) : Word :=
  match word.toList with
  | ['-', '-'] => .terminator
  | '-' :: '-' :: cs => readFlag cs
  | '-' :: c :: cs => readFlag (c :: cs)
  | _ => .operand

/-- A name that a word can carry; `FlagSet.Var` panics at a dash in front and at `=`. -/
def FlagName (name : String) : Prop :=
  name.toList ≠ [] ∧ name.toList.head? ≠ some '-' ∧ '=' ∉ name.toList

instance FlagName.decidable (name : String) : Decidable (FlagName name) :=
  inferInstanceAs (Decidable (_ ∧ _ ∧ _))

/-- The text after one dash or two. -/
def Dashed (text word : String) : Prop := word = "-" ++ text ∨ word = "--" ++ text

/-- A flag with the value after `=`. -/
def flagText (name : String) : Option String → String
  | none => name
  | some value => name ++ "=" ++ value

/-- A word that is no flag. -/
def Operand (word : String) : Prop := word = "-" ∨ word.toList.head? ≠ some '-'

/-- A word that begins like a flag, and has no name. -/
def BadSyntax (word : String) : Prop :=
  ∃ rest, word = "---" ++ rest ∨ word = "--=" ++ rest ∨ word = "-=" ++ rest

theorem split_at_first {c : Char} (cs : List Char) :
    c ∉ cs ∧ cs.dropWhile (· != c) = [] ∨
      ∃ pre post, cs = pre ++ c :: post ∧ c ∉ pre ∧ cs.takeWhile (· != c) = pre ∧
        cs.dropWhile (· != c) = c :: post := by
  induction cs with
  | nil => exact .inl ⟨List.not_mem_nil, rfl⟩
  | cons d cs ih =>
      by_cases hd : d = c
      · subst hd
        exact .inr ⟨[], cs, rfl, List.not_mem_nil, by simp, by simp⟩
      · rcases ih with ⟨hc, hdrop⟩ | ⟨pre, post, rfl, hc, htake, hdrop⟩
        · exact .inl ⟨by simp [hc, Ne.symm hd], by simp [hd, hdrop]⟩
        · exact .inr ⟨d :: pre, post, rfl, by simp [hc, Ne.symm hd], by simp [hd, htake],
            by simp [hd, hdrop]⟩

theorem readFlag_flagText {name : String} (h : FlagName name) (value : Option String) :
    readFlag (flagText name value).toList = .flag name value := by
  obtain ⟨hne, hdash, heq⟩ := h
  obtain ⟨c, cs, hname⟩ := List.exists_cons_of_ne_nil hne
  rw [hname] at hdash heq
  have hc : ¬ (c = '-' ∨ c = '=') := by
    rintro (rfl | rfl)
    · exact hdash rfl
    · exact heq List.mem_cons_self
  have hcs : '=' ∉ cs := fun hm => heq (List.mem_cons_of_mem c hm)
  have hof : String.ofList (c :: cs) = name := by rw [← hname, String.ofList_toList]
  cases value with
  | none =>
      rw [flagText, hname, readFlag, if_neg hc]
      rcases split_at_first (c := '=') cs with ⟨-, hdrop⟩ | ⟨pre, post, rfl, -⟩
      · rw [hdrop, hof]
      · exact absurd (List.mem_append_right pre List.mem_cons_self) hcs
  | some v =>
      have htext : (name ++ "=" ++ v).toList = c :: (cs ++ '=' :: v.toList) := by simp [hname]
      rw [flagText, htext, readFlag, if_neg hc]
      have htake : (cs ++ '=' :: v.toList).takeWhile (· != '=') = cs := by
        rw [List.takeWhile_append_of_pos (fun x hx => by
          simpa using fun he : x = '=' => hcs (he ▸ hx))]
        simp
      have hdrop : (cs ++ '=' :: v.toList).dropWhile (· != '=') = '=' :: v.toList := by
        rw [List.dropWhile_append_of_pos (fun x hx => by
          simpa using fun he : x = '=' => hcs (he ▸ hx))]
        simp
      simp only [htake, hdrop, hof, String.ofList_toList]

/-- What `readFlag` makes of a text, and the texts it makes it of. -/
theorem readFlag_cases (cs : List Char) :
    (readFlag cs = .badSyntax ∧ (cs = [] ∨ cs.head? = some '-' ∨ cs.head? = some '=')) ∨
      ∃ name value, FlagName name ∧ cs = (flagText name value).toList := by
  cases cs with
  | nil => exact .inl ⟨rfl, .inl rfl⟩
  | cons c cs =>
      by_cases hc : c = '-' ∨ c = '='
      · refine .inl ⟨if_pos hc, .inr ?_⟩
        simpa using hc
      · refine .inr ?_
        obtain ⟨hdash, heq⟩ := not_or.mp hc
        rcases split_at_first (c := '=') cs with ⟨hno, -⟩ | ⟨pre, post, rfl, hno, -⟩
        · refine ⟨String.ofList (c :: cs), none, ?_, by simp [flagText]⟩
          simp [FlagName, hdash, hno, Ne.symm heq]
        · refine ⟨String.ofList (c :: pre), some (String.ofList post), ?_, by simp [flagText]⟩
          simp [FlagName, hdash, hno, Ne.symm heq]

theorem readWord_dash {cs : List Char} {word : String} (h : word.toList = '-' :: cs)
    (hne : cs ≠ []) (hdash : cs.head? ≠ some '-') : readWord word = readFlag cs := by
  obtain ⟨c, cs, rfl⟩ := List.exists_cons_of_ne_nil hne
  have hc : c ≠ '-' := fun he => hdash (by rw [he]; rfl)
  unfold readWord
  rw [h]
  split
  · next heq => exact absurd (List.cons.inj (List.cons.inj heq).2).1 hc
  · next heq => exact absurd (List.cons.inj (List.cons.inj heq).2).1 hc
  · next heq => rw [(List.cons.inj heq).2]
  · next hno => exact absurd rfl (hno c cs)

theorem readWord_dashes {cs : List Char} {word : String} (h : word.toList = '-' :: '-' :: cs)
    (hne : cs ≠ []) : readWord word = readFlag cs := by
  obtain ⟨c, cs, rfl⟩ := List.exists_cons_of_ne_nil hne
  unfold readWord
  rw [h]
  rfl

theorem flagText_head {name : String} (h : FlagName name) (value : Option String) :
    (flagText name value).toList ≠ [] ∧ (flagText name value).toList.head? ≠ some '-' := by
  obtain ⟨hne, hdash, -⟩ := h
  obtain ⟨c, cs, hname⟩ := List.exists_cons_of_ne_nil hne
  rw [hname] at hdash
  cases value with
  | none => simpa [flagText, hname] using hdash
  | some v => simpa [flagText, hname] using hdash

/-- A flag is read as it is spelled. -/
theorem readWord_flag {name word : String} {value : Option String} (h : FlagName name)
    (hw : Dashed (flagText name value) word) : readWord word = .flag name value := by
  obtain ⟨hne, hdash⟩ := flagText_head h value
  rcases hw with rfl | rfl
  · have hw : ("-" ++ flagText name value).toList = '-' :: (flagText name value).toList := by simp
    rw [readWord_dash hw hne hdash, readFlag_flagText h]
  · have hw : ("--" ++ flagText name value).toList = '-' :: '-' :: (flagText name value).toList := by
      simp
    rw [readWord_dashes hw hne, readFlag_flagText h]

theorem readWord_operand {word : String} (h : Operand word) : readWord word = .operand := by
  unfold readWord
  rcases h with rfl | h
  · rfl
  · split
    · next heq => rw [heq] at h; exact absurd rfl h
    · next heq => rw [heq] at h; exact absurd rfl h
    · next heq => rw [heq] at h; exact absurd rfl h
    · rfl

theorem readWord_badSyntax {word : String} (h : BadSyntax word) : readWord word = .badSyntax := by
  obtain ⟨rest, rfl | rfl | rfl⟩ := h
  · have hw : ("---" ++ rest).toList = '-' :: '-' :: '-' :: rest.toList := by simp
    rw [readWord_dashes hw (List.cons_ne_nil _ _), readFlag, if_pos (Or.inl rfl)]
  · have hw : ("--=" ++ rest).toList = '-' :: '-' :: '=' :: rest.toList := by simp
    rw [readWord_dashes hw (List.cons_ne_nil _ _), readFlag, if_pos (Or.inr rfl)]
  · have hw : ("-=" ++ rest).toList = '-' :: '=' :: rest.toList := by simp
    rw [readWord_dash hw (List.cons_ne_nil _ _) (by simp), readFlag, if_pos (Or.inr rfl)]

/-- **Every word** is an operand, `--`, a flag with a name, or bad syntax. -/
theorem word_cases (word : String) :
    Operand word ∨ word = "--" ∨ BadSyntax word ∨
      ∃ name value, FlagName name ∧ Dashed (flagText name value) word := by
  obtain ⟨cs, rfl⟩ : ∃ cs, word = String.ofList cs := ⟨word.toList, String.ofList_toList.symm⟩
  rcases cs with - | ⟨c, cs⟩
  · exact .inl (.inr (by simp))
  by_cases hc : c = '-'
  · subst hc
    rcases readFlag_cases cs with ⟨-, rfl | hdash | heq⟩ | ⟨name, value, hname, rfl⟩
    · exact .inl (.inl rfl)
    · obtain ⟨rest, rfl⟩ := List.head?_eq_some_iff.mp hdash
      -- a second dash
      rcases readFlag_cases rest with ⟨-, rfl | hdash' | heq⟩ | ⟨name, value, hname, rfl⟩
      · exact .inr (.inl rfl)
      · obtain ⟨rest, rfl⟩ := List.head?_eq_some_iff.mp hdash'
        exact .inr (.inr (.inl ⟨String.ofList rest, .inl (by simp [← String.toList_inj])⟩))
      · obtain ⟨rest, rfl⟩ := List.head?_eq_some_iff.mp heq
        exact .inr (.inr (.inl ⟨String.ofList rest, .inr (.inl (by simp [← String.toList_inj]))⟩))
      · exact .inr (.inr (.inr ⟨name, value, hname, .inr (by simp [← String.toList_inj])⟩))
    · obtain ⟨rest, rfl⟩ := List.head?_eq_some_iff.mp heq
      exact .inr (.inr (.inl ⟨String.ofList rest, .inr (.inr (by simp [← String.toList_inj]))⟩))
    · exact .inr (.inr (.inr ⟨name, value, hname, .inl (by simp)⟩))
  · exact .inl (.inr (by simpa using hc))

/-! ### Flags -/

universe u

/-- A flag: how the text of a value decodes, and the variable it is written to. -/
structure FlagVar (σ : Type u) where
  {β : Type}
  isBoolFlag : Bool := false
  decode : String → Option β
  put : β → σ → σ
  /-- A Boolean flag goes without a value, and is then `true`. -/
  implied : isBoolFlag = true → (decode "true").isSome = true := by decide

/-- `Value.Set`; `none` is its parse error. -/
def FlagVar.set {σ : Type u} (flag : FlagVar σ) (value : String) (vars : σ) : Option σ :=
  (flag.decode value).map (fun b => flag.put b vars)

/-- `strconv.ParseBool`. -/
def parseBool (value : String) : Option Bool :=
  if value ∈ ["1", "t", "T", "true", "TRUE", "True"] then some true
  else if value ∈ ["0", "f", "F", "false", "FALSE", "False"] then some false
  else none

/-- The flags of a command, each defined once and under a name that a word can carry. -/
structure FlagSet (σ : Type u) where
  flags : List (String × FlagVar σ)
  nodup : (flags.map Prod.fst).Nodup
  names : ∀ f ∈ flags, FlagName f.1

/-- The errors of `Parse`. -/
inductive FlagError where
  | badSyntax (word : String)
  | help
  | notDefined (name : String)
  | needsArgument (name : String)
  | invalidBoolValue (value name : String)
  | invalidValue (value name : String)
deriving DecidableEq, Repr

/-- The text of an error; `quote` is the verb `%q`. -/
def FlagError.text (quote : String → String) : FlagError → String
  | badSyntax word => "bad flag syntax: " ++ word
  | help => "flag: help requested"
  | notDefined name => "flag provided but not defined: -" ++ name
  | needsArgument name => "flag needs an argument: -" ++ name
  | invalidBoolValue value name =>
      "invalid boolean value " ++ quote value ++ " for -" ++ name ++ ": parse error"
  | invalidValue value name =>
      "invalid value " ++ quote value ++ " for flag -" ++ name ++ ": parse error"

/-- `StringVar`. -/
def stringVar {σ : Type u} (put : String → σ → σ) : FlagVar σ where
  decode := some
  put := put

/-- `BoolVar`. -/
def boolVar {σ : Type u} (put : Bool → σ → σ) : FlagVar σ where
  isBoolFlag := true
  decode := parseBool
  put := put

namespace FlagSet

variable {σ : Type u} (F : FlagSet σ)

/-- The flag of a name. -/
def lookup (name : String) : Option (FlagVar σ) := F.flags.lookup name

/-- The error of a name without a flag. -/
def undefinedError (name : String) : FlagError :=
  if name = "help" ∨ name = "h" then .help else .notDefined name

/-- `Parse`: the variables, and the words it leaves. -/
def parse : List String → σ → Except FlagError (σ × List String)
  | [], vars => .ok (vars, [])
  | arg :: args, vars =>
      match readWord arg with
      | .operand => .ok (vars, arg :: args)
      | .terminator => .ok (vars, args)
      | .badSyntax => .error (.badSyntax arg)
      | .flag name value =>
          match F.lookup name with
          | none => .error (undefinedError name)
          | some flag =>
              if flag.isBoolFlag then
                -- never an error for the implied value
                match flag.set (value.getD "true") vars with
                | none => .error (.invalidBoolValue (value.getD "true") name)
                | some vars => parse args vars
              else
                match value, args with
                | some value, args =>
                    match flag.set value vars with
                    | none => .error (.invalidValue value name)
                    | some vars => parse args vars
                -- the value is the next word
                | none, value :: args =>
                    match flag.set value vars with
                    | none => .error (.invalidValue value name)
                    | some vars => parse args vars
                | none, [] => .error (.needsArgument name)

/-! ### The grammar -/

/-- The words that set a flag to a value. -/
inductive Spells : String × String → List String → Prop
  | joined {name value word : String} {flag : FlagVar σ} (h : F.lookup name = some flag)
      (hw : Dashed (flagText name (some value)) word) : Spells (name, value) [word]
  | implied {name word : String} {flag : FlagVar σ} (h : F.lookup name = some flag)
      (hb : flag.isBoolFlag = true) (hw : Dashed (flagText name none) word) :
      Spells (name, "true") [word]
  | apart {name value word : String} {flag : FlagVar σ} (h : F.lookup name = some flag)
      (hb : flag.isBoolFlag = false) (hw : Dashed (flagText name none) word) :
      Spells (name, value) [word, value]

/-- The value is one of the flag. -/
def Accepts (s : String × String) : Prop :=
  ∃ flag, F.lookup s.1 = some flag ∧ (flag.decode s.2).isSome = true

/-- A sequence of settings, each accepted. -/
inductive Sets : List (String × String) → List String → Prop
  | nil : Sets [] []
  | cons {s : String × String} {ss : List (String × String)} {ws ws' : List String}
      (h : F.Spells s ws) (ha : F.Accepts s) (hs : Sets ss ws') : Sets (s :: ss) (ws ++ ws')

/-- The end of the flags, and the words after it. -/
inductive Stops : List String → List String → Prop
  | finish : Stops [] []
  | operand {word : String} {ws : List String} (h : Operand word) : Stops (word :: ws) (word :: ws)
  | terminator {ws : List String} : Stops ("--" :: ws) ws

/-- The error of a value that is none of the flag. -/
def invalidError (s : String × String) : FlagError :=
  if ((F.lookup s.1).map FlagVar.isBoolFlag).getD false then .invalidBoolValue s.2 s.1
  else .invalidValue s.2 s.1

/-- What ends in an error. -/
inductive Fails : List String → FlagError → Prop
  | badSyntax {word : String} {ws : List String} (h : BadSyntax word) :
      Fails (word :: ws) (.badSyntax word)
  | undefined {name word : String} {value : Option String} {ws : List String}
      (hn : FlagName name) (h : F.lookup name = none) (hw : Dashed (flagText name value) word) :
      Fails (word :: ws) (undefinedError name)
  | needsArgument {name word : String} {flag : FlagVar σ} (h : F.lookup name = some flag)
      (hb : flag.isBoolFlag = false) (hw : Dashed (flagText name none) word) :
      Fails [word] (.needsArgument name)
  | invalid {s : String × String} {ws ws' : List String} (h : F.Spells s ws)
      (ha : ¬ F.Accepts s) : Fails (ws ++ ws') (F.invalidError s)

/-- A command line of settings, up to the end of the flags. -/
def Accepted (args : List String) (ss : List (String × String)) (left : List String) : Prop :=
  ∃ ws rest, args = ws ++ rest ∧ F.Sets ss ws ∧ Stops rest left

/-- A command line of settings, up to an error. -/
def Refused (args : List String) (err : FlagError) : Prop :=
  ∃ ss ws rest, args = ws ++ rest ∧ F.Sets ss ws ∧ F.Fails rest err

/-- The variables after a setting. -/
def assign (vars : σ) (s : String × String) : σ :=
  ((F.lookup s.1).bind (fun flag => flag.set s.2 vars)).getD vars

variable {F}

theorem flagName_of_lookup {name : String} {flag : FlagVar σ} (h : F.lookup name = some flag) :
    FlagName name := by
  obtain ⟨l₁, l₂, hl, -⟩ := List.lookup_eq_some_iff.mp h
  exact F.names (name, flag) (by rw [hl]; simp)

theorem accepts_iff {name value : String} {flag : FlagVar σ} (h : F.lookup name = some flag) :
    F.Accepts (name, value) ↔ (flag.decode value).isSome = true := by
  constructor
  · rintro ⟨flag', h', hd⟩
    rw [h] at h'
    cases h'
    exact hd
  · exact fun hd => ⟨flag, h, hd⟩

/-- `Set` succeeds exactly if the value is accepted, and then the variables are those of `assign`. -/
theorem set_eq {name value : String} {flag : FlagVar σ} (h : F.lookup name = some flag) (vars : σ) :
    flag.set value vars =
      if (flag.decode value).isSome then some (F.assign vars (name, value)) else none := by
  rw [assign, h]
  simp only [Option.bind_some, FlagVar.set]
  cases flag.decode value with
  | none => rfl
  | some b => rfl

theorem invalidError_eq {name value : String} {flag : FlagVar σ} (h : F.lookup name = some flag) :
    F.invalidError (name, value) =
      if flag.isBoolFlag then .invalidBoolValue value name else .invalidValue value name := by
  rw [invalidError, h]
  rfl

/-! ### The parser follows the grammar -/

/-- A setting is read as it is spelled. -/
theorem parse_spells {s : String × String} {ws : List String} (h : F.Spells s ws)
    (rest : List String) (vars : σ) :
    (F.Accepts s → F.parse (ws ++ rest) vars = F.parse rest (F.assign vars s)) ∧
      (¬ F.Accepts s → F.parse (ws ++ rest) vars = .error (F.invalidError s)) := by
  cases h with
  | @joined name value word flag h hw =>
      rw [accepts_iff h, invalidError_eq h, List.singleton_append, parse,
        readWord_flag (flagName_of_lookup h) hw]
      simp only [h, Option.getD_some, set_eq h]
      cases flag.isBoolFlag <;> cases (flag.decode value).isSome <;> simp
  | @implied name word flag h hb hw =>
      rw [accepts_iff h, List.singleton_append, parse, readWord_flag (flagName_of_lookup h) hw]
      simp [h, hb, set_eq h, flag.implied hb]
  | @apart name value word flag h hb hw =>
      rw [accepts_iff h, invalidError_eq h, List.cons_append, List.singleton_append, parse,
        readWord_flag (flagName_of_lookup h) hw]
      simp only [h, hb, set_eq h]
      cases (flag.decode value).isSome <;> simp

/-- Accepted settings are written in order. -/
theorem parse_sets {ss : List (String × String)} {ws : List String} (h : F.Sets ss ws)
    (rest : List String) (vars : σ) :
    F.parse (ws ++ rest) vars = F.parse rest (ss.foldl F.assign vars) := by
  induction h generalizing vars with
  | nil => rfl
  | cons hs ha _ ih =>
      rw [List.append_assoc, (parse_spells hs _ vars).1 ha, ih]
      rfl

theorem parse_stops {args left : List String} (h : Stops args left) (vars : σ) :
    F.parse args vars = .ok (vars, left) := by
  cases h with
  | finish => rfl
  | operand h => rw [parse, readWord_operand h]
  | terminator => rfl

theorem parse_fails {args : List String} {err : FlagError} (h : F.Fails args err) (vars : σ) :
    F.parse args vars = .error err := by
  cases h with
  | badSyntax h => rw [parse, readWord_badSyntax h]
  | undefined hn h hw =>
      rw [parse, readWord_flag hn hw]
      simp only [h]
  | needsArgument h hb hw =>
      rw [parse, readWord_flag (flagName_of_lookup h) hw]
      simp [h, hb]
  | invalid h ha => exact (parse_spells h _ vars).2 ha

/-- A command line stops, fails, or begins with an accepted setting. -/
theorem args_cases (args : List String) :
    (∃ left, Stops args left) ∨ (∃ err, F.Fails args err) ∨
      ∃ s ws rest, args = ws ++ rest ∧ F.Spells s ws ∧ F.Accepts s := by
  have spelled : ∀ {s ws} rest, F.Spells s ws → (∃ err, F.Fails (ws ++ rest) err) ∨
      ∃ s' ws' rest', ws ++ rest = ws' ++ rest' ∧ F.Spells s' ws' ∧ F.Accepts s' := by
    intro s ws rest h
    by_cases ha : F.Accepts s
    · exact .inr ⟨s, ws, rest, rfl, h, ha⟩
    · exact .inl ⟨_, .invalid h ha⟩
  cases args with
  | nil => exact .inl ⟨[], .finish⟩
  | cons word args =>
      rcases word_cases word with h | rfl | h | ⟨name, value, hn, hw⟩
      · exact .inl ⟨_, .operand h⟩
      · exact .inl ⟨_, .terminator⟩
      · exact .inr (.inl ⟨_, .badSyntax h⟩)
      · refine .inr ?_
        cases hf : F.lookup name with
        | none => exact .inl ⟨_, .undefined hn hf hw⟩
        | some flag =>
            cases value with
            | some value => exact spelled args (.joined hf hw)
            | none =>
                cases hb : flag.isBoolFlag with
                | true => exact spelled args (.implied hf hb hw)
                | false =>
                    cases args with
                    | nil => exact .inl ⟨_, .needsArgument hf hb hw⟩
                    | cons value args => exact spelled args (.apart hf hb hw)

theorem Spells.ne_nil {s : String × String} {ws : List String} (h : F.Spells s ws) : ws ≠ [] := by
  cases h <;> exact List.cons_ne_nil _ _

/-- **Every command line** is a sequence of accepted settings up to its end or its first error. -/
theorem accepted_or_refused (args : List String) :
    (∃ ss left, F.Accepted args ss left) ∨ ∃ err, F.Refused args err := by
  induction hn : args.length using Nat.strong_induction_on generalizing args with
  | _ n ih =>
      rcases args_cases (F := F) args with ⟨left, h⟩ | ⟨err, h⟩ | ⟨s, ws, rest, rfl, hs, ha⟩
      · exact .inl ⟨[], left, [], args, rfl, .nil, h⟩
      · exact .inr ⟨err, [], [], args, rfl, .nil, h⟩
      · have hlt : rest.length < n := by
          have hpos := List.length_pos_of_ne_nil hs.ne_nil
          rw [List.length_append] at hn
          omega
        rcases ih rest.length hlt rest rfl with
          ⟨ss, left, ws', rest', rfl, hss, hstop⟩ | ⟨err, ss, ws', rest', rfl, hss, hfail⟩
        · exact .inl ⟨s :: ss, left, ws ++ ws', rest', (List.append_assoc _ _ _).symm,
            .cons hs ha hss, hstop⟩
        · exact .inr ⟨err, s :: ss, ws ++ ws', rest', (List.append_assoc _ _ _).symm,
            .cons hs ha hss, hfail⟩

/-- **Settings up to the end of the flags** are written in order. -/
theorem parse_accepted {args left : List String} {ss : List (String × String)}
    (h : F.Accepted args ss left) (vars : σ) :
    F.parse args vars = .ok (ss.foldl F.assign vars, left) := by
  obtain ⟨ws, rest, rfl, hss, hstop⟩ := h
  rw [parse_sets hss, parse_stops hstop]

/-- **The first words that make no accepted setting** give the error. -/
theorem parse_refused {args : List String} {err : FlagError} (h : F.Refused args err) (vars : σ) :
    F.parse args vars = .error err := by
  obtain ⟨ss, ws, rest, rfl, hss, hfail⟩ := h
  rw [parse_sets hss, parse_fails hfail]

/-- Words that spell accepted settings one after the other. -/
theorem sets_flatten {ss : List (String × String)} {groups : List (List String)}
    (h : List.Forall₂ F.Spells ss groups) (ha : ∀ s ∈ ss, F.Accepts s) :
    F.Sets ss groups.flatten := by
  induction h with
  | nil => exact .nil
  | cons hs _ ih =>
      obtain ⟨ha, has⟩ := List.forall_mem_cons.mp ha
      exact .cons hs ha (ih has)

/-! ### The last setting wins -/

theorem Sets.accepts {ss : List (String × String)} {ws : List String} (h : F.Sets ss ws) :
    ∀ s ∈ ss, F.Accepts s := by
  induction h with
  | nil => exact fun s hs => absurd hs List.not_mem_nil
  | cons _ ha _ ih => exact List.forall_mem_cons.mpr ⟨ha, ih⟩

theorem Accepted.accepts {args left : List String} {ss : List (String × String)}
    (h : F.Accepted args ss left) : ∀ s ∈ ss, F.Accepts s := by
  obtain ⟨ws, rest, -, hss, -⟩ := h
  exact hss.accepts

/-- The value of a flag after some settings. -/
def lastValue {β : Type} (decode : String → Option β) (name : String)
    (ss : List (String × String)) (default : β) : β :=
  ((lastWrite Prod.fst ss name).bind (fun s => decode s.2)).getD default

theorem lookup_of_mem {name : String} {flag : FlagVar σ} (h : (name, flag) ∈ F.flags) :
    F.lookup name = some flag := by
  obtain ⟨l₁, l₂, hl⟩ := List.append_of_mem h
  refine List.lookup_eq_some_iff.mpr ⟨l₁, l₂, hl, fun f hf => ?_⟩
  have hnd := F.nodup
  rw [hl, List.map_append, List.map_cons, List.nodup_append] at hnd
  have hne := hnd.2.2 f.1 (List.mem_map_of_mem hf) name List.mem_cons_self
  simpa using Ne.symm hne

/-- A flag that alone writes a variable. -/
structure Writes (F : FlagSet σ) {β : Type} (name : String) (decode : String → Option β)
    (π : σ → β) : Prop where
  own : ∀ vars value, F.Accepts (name, value) →
    decode value = some (π (F.assign vars (name, value)))
  other : ∀ vars s, s.1 ≠ name → π (F.assign vars s) = π vars

/-- The laws of a variable, flag by flag. -/
theorem writes_of_mem {name : String} {flag : FlagVar σ} (hm : (name, flag) ∈ F.flags)
    {π : σ → flag.β} (hown : ∀ b vars, π (flag.put b vars) = b)
    (hother : ∀ f ∈ F.flags, f.1 ≠ name → ∀ b vars, π (f.2.put b vars) = π vars) :
    F.Writes name flag.decode π := by
  refine ⟨fun vars value ha => ?_, fun vars s hs => ?_⟩
  · have hf := lookup_of_mem hm
    obtain ⟨b, hb⟩ := Option.isSome_iff_exists.mp ((accepts_iff hf).mp ha)
    rw [assign, hf, Option.bind_some, FlagVar.set, hb, Option.map_some, Option.getD_some, hown]
  · rw [assign]
    cases hf : F.lookup s.1 with
    | none => rfl
    | some f =>
        obtain ⟨l₁, l₂, hl, -⟩ := List.lookup_eq_some_iff.mp hf
        have hmem : (s.1, f) ∈ F.flags := by rw [hl]; simp
        rw [Option.bind_some, FlagVar.set]
        cases f.decode s.2 with
        | none => rfl
        | some b => exact hother _ hmem hs b vars

/-- **The last setting of a flag is the one that counts**, and without one the default. -/
theorem Writes.foldl {β : Type} {name : String} {decode : String → Option β} {π : σ → β}
    (h : F.Writes name decode π) {ss : List (String × String)} (hss : ∀ s ∈ ss, F.Accepts s)
    (vars : σ) : π (ss.foldl F.assign vars) = lastValue decode name ss (π vars) := by
  induction ss using List.reverseRecOn with
  | nil => rfl
  | append_singleton ss s ih =>
      have hinit := ih (fun t ht => hss t (List.mem_append_left _ ht))
      have hs : F.Accepts s := hss s (List.mem_append_right _ (List.mem_singleton.mpr rfl))
      obtain ⟨name', value⟩ := s
      rw [List.foldl_append, List.foldl_cons, List.foldl_nil, lastValue, lastWrite_concat]
      by_cases hname : name' = name
      · subst hname
        rw [if_pos rfl, Option.bind_some, h.own _ _ hs]
        rfl
      · rw [if_neg hname, h.other _ _ hname, hinit]
        rfl

end FlagSet

end GpuEbpfBridge.Lib
