import UrlHandoff.CommandLine.Similarity
import UrlHandoff.FileTree
import UrlHandoff.Text.Styled

namespace UrlHandoff.CommandLine

inductive LongOption
  | url
  | help
  deriving DecidableEq, Repr

namespace LongOption

def all : List LongOption := [url, help]

def name : LongOption → String
  | url => "url"
  | help => "help"

def flag (option : LongOption) : String := "--" ++ option.name

def placeholder : LongOption → String
  | url => " <URL>"
  | help => ""

def usage (option : LongOption) : String := option.flag ++ option.placeholder

def styledUsage (option : LongOption) : Text.Styled :=
  [⟨.literal, option.flag⟩, ⟨.plain, option.placeholder⟩]

def ofName? (text : String) : Option LongOption := all.find? fun option => option.name == text

def threshold : Ratio := ⟨7, 10⟩

def similarTo (text : String) : Option LongOption :=
  let likeness (option : LongOption) : Ratio := jaro text.toList option.name.toList
  (all.filter fun option => !threshold.exceeds (likeness option)).foldl
    (fun best option =>
      match best with
      | none => some option
      | some old => if (likeness old).exceeds (likeness option) then some old else some option)
    none

end LongOption

inductive Refusal
  | helpAsked
  | valueMissing
  | urlRepeated
  | notText
  | helpValue (value : String) (alone : Bool)
  | unknown (argument : String) (similar : Option LongOption) (given : List LongOption)
  deriving DecidableEq, Repr

namespace Refusal

def kind : Refusal → String
  | helpAsked => "DisplayHelp"
  | valueMissing => "InvalidValue"
  | urlRepeated => "ArgumentConflict"
  | notText => "InvalidUtf8"
  | helpValue _ _ => "TooManyValues"
  | unknown _ _ _ => "UnknownArgument"

def isError (refusal : Refusal) : Bool := refusal != helpAsked

def status (refusal : Refusal) : Nat := if refusal.isError then 2 else 0

open Text

def usageLine (program : String) (rest : Styled) : Styled :=
  [⟨.heading, "Usage:"⟩, ⟨.plain, " "⟩, ⟨.literal, program⟩, ⟨.plain, " "⟩] ++ rest

def usageOf : List LongOption → Styled
  | [] => .ofText "[OPTIONS]"
  | options => List.intercalate (Styled.ofText " ") (options.map LongOption.styledUsage)

def help (program : String) : Styled :=
  .ofText "Open a URL in the default web browser without blocking the caller\n\n" ++
    usageLine program (usageOf []) ++
    [⟨.plain, "\n\n"⟩, ⟨.heading, "Options:"⟩,
      ⟨.plain, "\n  "⟩, ⟨.literal, "-u"⟩, ⟨.plain, ", "⟩, ⟨.literal, "--url"⟩,
      ⟨.plain, " <URL>  The URL to open in web browser\n  "⟩,
      ⟨.literal, "-h"⟩, ⟨.plain, ", "⟩, ⟨.literal, "--help"⟩, ⟨.plain, "       Print help\n"⟩]

def helpUsage (alone : Bool) : Styled :=
  LongOption.help.styledUsage ++
    (if alone then [] else Styled.ofText (" <" ++ LongOption.url.usage ++ "|ARGS>"))

def complaint (what : Styled) (usage : Option Styled) : Styled :=
  [⟨.alarm, "error:"⟩, ⟨.plain, " "⟩] ++ what ++ usage.elim [] (Styled.ofText "\n\n" ++ ·) ++
    [⟨.plain, "\n\nFor more information, try '"⟩, ⟨.literal, "--help"⟩, ⟨.plain, "'.\n"⟩]

def tip (argument : String) (similar : Option LongOption) : Styled :=
  [⟨.plain, "\n\n  "⟩, ⟨.right, "tip:"⟩] ++
    match similar with
    | some option =>
      [⟨.plain, " a similar argument exists: '"⟩, ⟨.right, option.flag⟩, ⟨.plain, "'"⟩]
    | none =>
      [⟨.plain, " to pass '"⟩, ⟨.wrong, argument⟩, ⟨.plain, "' as a value, use '"⟩,
        ⟨.right, "-- " ++ argument⟩, ⟨.plain, "'"⟩]

def message (program : String) : Refusal → Styled
  | helpAsked => help program
  | valueMissing =>
    complaint
      [⟨.plain, "a value is required for '"⟩, ⟨.wrong, LongOption.url.usage⟩,
        ⟨.plain, "' but none was supplied"⟩]
      none
  | urlRepeated =>
    complaint
      [⟨.plain, "the argument '"⟩, ⟨.wrong, LongOption.url.usage⟩,
        ⟨.plain, "' cannot be used multiple times"⟩]
      (usageLine program (usageOf []))
  | notText =>
    complaint (.ofText "invalid UTF-8 was detected in one or more arguments")
      (usageLine program (usageOf []))
  | helpValue value alone =>
    complaint
      [⟨.plain, "unexpected value '"⟩, ⟨.wrong, value⟩, ⟨.plain, "' for '"⟩,
        ⟨.literal, LongOption.help.usage⟩, ⟨.plain, "' found; no more were expected"⟩]
      (usageLine program (helpUsage alone))
  | unknown argument similar given =>
    complaint
      ([⟨.plain, "unexpected argument '"⟩, ⟨.wrong, argument⟩, ⟨.plain, "' found"⟩] ++
        tip argument similar)
      (usageLine program
        (usageOf (given ++ (similar.filter fun option => !given.contains option).toList)))

end Refusal

def defaultName : String := "weblaunch"

def programName (path : Option Path) : String :=
  ((path.bind fun path => path.names.getLast?).filter fun name => name ≠ Path.parent).bind
    Octets.text? |>.getD defaultName

end UrlHandoff.CommandLine
