import Runbook.LogFilter.Directive
/-! Filters of the log, with the more specific directives before the others. -/
namespace Runbook

structure LogFilter where
  static : List LogFilter.Directive
  dynamic : List LogFilter.Directive
  deriving DecidableEq, Repr

namespace LogFilter

/-- A directive in its place, instead of an earlier one for the same. -/
def add (directives : List Directive) (d : Directive) : List Directive :=
  match directives with
  | [] => [d]
  | e :: rest =>
    match d.specificity e with
    | .gt => d :: e :: rest
    | .eq => d :: rest
    | .lt => e :: add rest d

def ofDirectives (directives : List Directive) : LogFilter where
  static := (directives.filter Directive.isStatic).foldl add []
  dynamic := (directives.filter Directive.isDynamic).foldl add []

/-- Directives between commas. -/
def read (text : String) : Except Fault LogFilter :=
  (((text.splitOn ",").filter (!·.isEmpty)).mapM Directive.read).map ofDirectives

def display (f : LogFilter) : String :=
  String.intercalate "," ((f.static ++ f.dynamic).map Directive.display)

end LogFilter

end Runbook
