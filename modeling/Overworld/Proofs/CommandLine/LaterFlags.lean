import Overworld.CommandLine

/-!
# Later flags

A command line is read flag by flag, and nothing is carried from one flag to the next but what has
been set. So arguments can be appended to others that were read: what they set replaces what stood
there before, and they fail as they would have failed alone.
-/

namespace Overworld

namespace CommandLine

/-- What is set in the end when a command line sets something else behind this one. -/
def replacedBy (c later : CommandLine) : CommandLine where
  config := later.config.or c.config
  data := later.data.or c.data
  frames := later.frames.or c.frames
  graceMs := later.graceMs.or c.graceMs
  maxDepth := later.maxDepth.or c.maxDepth
  debug := later.debug.or c.debug

/-- What a flag sets with a value. The value is the whole argument behind the flag, whatever it
looks like. -/
inductive Sets (value : String) : String → CommandLine → Prop
  | config : Sets value "--config" { config := some ⟨value⟩ }
  | data : Sets value "--data" { data := some ⟨value⟩ }
  | frames {n : Nat} (h : Text.natural UInt64.size value = .ok n) :
      Sets value "--frames" { frames := some n }
  | graceMs {n : Nat} (h : Text.natural UInt64.size value = .ok n) :
      Sets value "--grace-ms" { graceMs := some n }
  | maxDepth {n : Nat} (h : Text.natural UInt32.size value = .ok n) :
      Sets value "--max-depth" { maxDepth := some (UInt32.ofNat n) }
  | debug {on : Bool} (h : switch "debug" value = .ok on) :
      Sets value "--debug" { debug := some on }

/-- What replaces something that replaces something else replaces both. -/
theorem replacedBy_replacedBy (c later last : CommandLine) :
    (c.replacedBy later).replacedBy last = c.replacedBy (later.replacedBy last) := by
  simp only [replacedBy, Option.or_assoc]

/-- A number is read if its text is one. -/
theorem number_eq_ok {flag : NumberFlag} {bound n : Nat} {value : String} :
    number flag bound value = .ok n ↔ Text.natural bound value = .ok n := by
  unfold number
  cases Text.natural bound value with
  | error => constructor <;> rintro ⟨⟩
  | ok => constructor <;> rintro ⟨⟩ <;> rfl

section

variable {α : Type} {x : Except CommandLineError α}

/-- What a flag sets is there if its value has been read. -/
theorem bind_eq_ok {f : α → CommandLine} {c : CommandLine} :
    (x >>= fun a => .ok (f a)) = .ok c ↔ ∃ a, x = .ok a ∧ f a = c := by
  cases x <;> simp [bind, Except.bind]

/-- What flags set with the same value differs only in what had been set before. -/
theorem bind_eq_map {f g : α → CommandLine} {k : CommandLine → CommandLine}
    (h : ∀ a, f a = k (g a)) :
    (x >>= fun a => .ok (f a)) = (x >>= fun a => .ok (g a)).map k := by
  cases x with
  | error e => rfl
  | ok a => exact congrArg Except.ok (h a)

end

section

variable {c c' : CommandLine} {flag value : String} {a rest : List String} {e : CommandLineError}

/-- A flag sets its own field and leaves everything else. -/
theorem set_eq_map (c : CommandLine) (flag value : String) :
    c.set flag value = (set {} flag value).map c.replacedBy := by
  unfold set
  split
  case h_1 | h_2 => simp [replacedBy, Except.map]
  case h_3 | h_4 | h_5 | h_6 => exact bind_eq_map fun _ => by simp [replacedBy]
  case h_7 => rfl

/-- A flag that is set alone sets what its value says. -/
theorem set_eq_ok : set {} flag value = .ok c ↔ Sets value flag c := by
  constructor
  · intro h
    unfold set at h
    split at h
    case h_1 => cases h; exact .config
    case h_2 => cases h; exact .data
    case h_3 =>
      obtain ⟨n, hn, rfl⟩ := bind_eq_ok.mp h
      exact .frames (number_eq_ok.mp hn)
    case h_4 =>
      obtain ⟨n, hn, rfl⟩ := bind_eq_ok.mp h
      exact .graceMs (number_eq_ok.mp hn)
    case h_5 =>
      obtain ⟨n, hn, rfl⟩ := bind_eq_ok.mp h
      exact .maxDepth (number_eq_ok.mp hn)
    case h_6 =>
      obtain ⟨on, hon, rfl⟩ := bind_eq_ok.mp h
      exact .debug hon
    case h_7 => cases h
  · intro h
    cases h with
    | config | data => rfl
    | frames h | graceMs h | maxDepth h => exact bind_eq_ok.mpr ⟨_, number_eq_ok.mpr h, rfl⟩
    | debug h => exact bind_eq_ok.mpr ⟨_, h, rfl⟩

/-- A flag that has a value does not ask for one. -/
theorem set_ne_missingValue (c : CommandLine) (flag value absent : String) :
    c.set flag value ≠ .error (.missingValue absent) := by
  unfold set
  split
  case h_1 | h_2 | h_7 => nofun
  case h_3 | h_4 | h_5 =>
    unfold number
    cases Text.natural _ value <;> nofun
  case h_6 =>
    simp only [switch]
    split
    · nofun
    · split <;> nofun

/-- A flag is set together with the argument behind it, and the rest is read on top of that. -/
theorem parseFrom_pair (hflag : flag.startsWith "--" = true) :
    parseFrom c (flag :: value :: rest) = (c.set flag value).bind fun c => parseFrom c rest := by
  simp only [parseFrom, hflag, if_true]
  rfl

/-- An argument that is no flag ends the reading. -/
theorem parseFrom_stray (hflag : ¬ flag.startsWith "--" = true) :
    parseFrom c (flag :: rest) = .error (.notAFlag flag) := by
  cases rest <;> simp only [parseFrom, if_neg hflag]

/-- Flags that are read on top of something replace what they set. -/
theorem parseFrom_eq_map (c : CommandLine) (arguments : List String) :
    parseFrom c arguments = (parseFrom {} arguments).map c.replacedBy := by
  fun_induction parseFrom c arguments with
  | case1 c => simp [parseFrom, Except.map, replacedBy]
  | case2 c flag hflag => simp [parseFrom, hflag, Except.map]
  | case3 c flag hflag => simp [parseFrom, hflag, Except.map]
  | case4 c flag value rest hflag ih =>
    rw [parseFrom_pair hflag, set_eq_map c]
    cases hset : set {} flag value with
    | error e => rfl
    | ok later =>
      change parseFrom (c.replacedBy later) rest = (parseFrom later rest).map c.replacedBy
      rw [ih, ih later]
      cases parseFrom {} rest with
      | error e => rfl
      | ok last => exact congrArg Except.ok (replacedBy_replacedBy c later last)
  | case5 c flag value rest hflag => rw [parseFrom_stray hflag]; rfl

/-- Arguments behind others that were read are read on top of what those set. -/
theorem parseFrom_append (h : parseFrom c a = .ok c') (b : List String) :
    parseFrom c (a ++ b) = parseFrom c' b := by
  fun_induction parseFrom c a with
  | case1 c => cases h; rfl
  | case2 | case3 | case5 => cases h
  | case4 c flag value rest hflag ih =>
    rw [List.cons_append, List.cons_append, parseFrom_pair hflag]
    cases hset : c.set flag value with
    | error e => rw [hset] at h; cases h
    | ok c₁ =>
      rw [hset] at h
      exact ih c₁ h

/-- A failure stays whatever stands behind it, unless it was a flag at the end that found no
value. -/
theorem parseFrom_append_of_error (h : parseFrom c a = .error e) (b : List String) :
    parseFrom c (a ++ b) = .error e ∨ ∃ front flag c', a = front ++ [flag] ∧
      flag.startsWith "--" = true ∧ parseFrom c front = .ok c' ∧ e = .missingValue flag := by
  fun_induction parseFrom c a with
  | case1 c => cases h
  | case2 c flag hflag =>
    cases h
    exact .inr ⟨[], flag, c, rfl, hflag, rfl, rfl⟩
  | case3 c flag hflag | case5 c flag value rest hflag =>
    cases h
    exact .inl (parseFrom_stray hflag)
  | case4 c flag value rest hflag ih =>
    rw [List.cons_append, List.cons_append, parseFrom_pair hflag]
    cases hset : c.set flag value with
    | error e' =>
      rw [hset] at h
      exact .inl h
    | ok c₁ =>
      rw [hset] at h
      rcases ih c₁ h with hsame | ⟨front, last, c', hrest, hlast, hfront, he⟩
      · exact .inl hsame
      · refine .inr ⟨flag :: value :: front, last, c', by rw [hrest]; rfl, hlast, ?_, he⟩
        rw [parseFrom_pair hflag, hset]
        exact hfront

/-- Only a flag that is known sets anything. -/
theorem Sets.isFlag (h : Sets value flag c) : flag.startsWith "--" = true := by
  rw [String.startsWith_string_iff]
  cases h <;> decide

/-- A flag and its value are read as what the flag sets. -/
theorem parseFrom_pair_eq_ok : parseFrom {} [flag, value] = .ok c ↔ Sets value flag c := by
  by_cases hflag : flag.startsWith "--" = true
  · rw [parseFrom_pair hflag, ← set_eq_ok]
    cases set {} flag value <;> simp [Except.bind, parseFrom]
  · rw [parseFrom_stray hflag]
    exact ⟨nofun, fun h => absurd h.isFlag hflag⟩

/-- A flag and its value are not refused for the lack of a value. -/
theorem parseFrom_pair_ne_missingValue (flag value absent : String) :
    parseFrom {} [flag, value] ≠ .error (.missingValue absent) := by
  by_cases hflag : flag.startsWith "--" = true
  · rw [parseFrom_pair hflag]
    cases hset : set {} flag value with
    | error e =>
      rintro ⟨⟩
      exact set_ne_missingValue _ _ _ _ hset
    | ok c => nofun
  · rw [parseFrom_stray hflag]
    nofun

end

/-- **Command lines compose, and the later flag wins.** If some arguments can be read, then others
behind them are read as if they stood alone: the whole can be read exactly if they can, it fails as
they do, and what they set replaces what was set before, field by field. If the first arguments
cannot be read, the whole fails in the same way, unless they end with a flag that lacks a value. A
flag takes the argument behind it as its value, whatever that begins with, and then lacks none. -/
theorem parse_append (program : String) (a b : List String) :
    (∀ c, parse (program :: a) = .ok c →
      parse (program :: (a ++ b)) = (parse (program :: b)).map c.replacedBy) ∧
    (∀ e, parse (program :: a) = .error e →
      parse (program :: (a ++ b)) = .error e ∨ ∃ front flag c, a = front ++ [flag] ∧
        flag.startsWith "--" = true ∧ parse (program :: front) = .ok c ∧ e = .missingValue flag) ∧
    ∀ flag value, (∀ c, parse [program, flag, value] = .ok c ↔ Sets value flag c) ∧
      ∀ absent, parse [program, flag, value] ≠ .error (.missingValue absent) := by
  refine ⟨fun c hread => ?_, fun e hfails => ?_, fun flag value => ⟨fun c => ?_, ?_⟩⟩
  · calc
      parse (program :: (a ++ b)) = parseFrom c b := parseFrom_append hread b
      _ = (parse (program :: b)).map c.replacedBy := parseFrom_eq_map c b
  · exact parseFrom_append_of_error hfails b
  · exact parseFrom_pair_eq_ok
  · exact parseFrom_pair_ne_missingValue flag value

/-- A file of settings may have the name of a flag, and may be named anew; what is no flag ends the
reading also in front of flags. -/
theorem parse_append_field :
    parse ["field", "--config", "--data", "--config", "quiet.json"] =
        .ok { config := some ⟨"quiet.json"⟩ } ∧
      parse ["field", "map", "--data", "Data"] = .error (.notAFlag "map") := by
  constructor
  · obtain ⟨hread, -, hpair⟩ :=
      parse_append "field" ["--config", "--data"] ["--config", "quiet.json"]
    have hboth := hread _ (((hpair _ _).1 _).mpr .config)
    rwa [((hpair _ _).1 _).mpr .config] at hboth
  · have hstray : parse ["field", "map"] = .error (.notAFlag "map") :=
      parseFrom_stray (by simp [String.startsWith_string_iff])
    obtain ⟨-, hfails, -⟩ := parse_append "field" ["map"] ["--data", "Data"]
    rcases hfails _ hstray with hsame | ⟨_, _, _, _, _, _, hmissing⟩
    · exact hsame
    · cases hmissing

end CommandLine

end Overworld
