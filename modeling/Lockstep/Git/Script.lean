import Lockstep.Git.Command

/-!
# Scripted replies

A script stands in for git: a list of rules, of which the first that fits a
command gives the reply.  A command that no rule fits fails.
-/

namespace Lockstep

namespace Git

/-- When a rule fits. -/
inductive RuleCondition where
  /-- The arguments are exactly these. -/
  | exactly (arguments : List Text)
  /-- These are among the arguments. -/
  | mentions (arguments : List Text)
  deriving DecidableEq, Repr

/-- A rule of a script. -/
structure Rule where
  condition : RuleCondition
  reply : Reply
  deriving DecidableEq, Repr

/-- Whether a rule fits a command. -/
def RuleCondition.fits (c : Command) : RuleCondition → Bool
  | .exactly arguments => c.arguments = arguments
  | .mentions arguments => arguments.all (c.arguments.contains ·)

/-- The reply to a command that no rule fits. -/
def noReply : Reply := .ended (some 128) [] "fatal: no canned answer\n".toList none

/-- The replies of a script. -/
def script (rules : List Rule) : Host := fun c =>
  match rules.find? (·.condition.fits c) with
  | some rule => rule.reply
  | none => noReply

end Git

end Lockstep
