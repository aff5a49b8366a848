import LoxExpr.Command.Script
import LoxExpr.Grammar.Session
import LoxExpr.Main
import LoxExpr.Proofs.Command.Prompt
import LoxExpr.Proofs.Expr.Reader
import LoxExpr.Proofs.Grammar.Boundary
import LoxExpr.Proofs.Grammar.CallDepth
import LoxExpr.Proofs.Grammar.Conduct
import LoxExpr.Proofs.Grammar.Failure
import LoxExpr.Proofs.Grammar.Height
import LoxExpr.Proofs.Grammar.Landing
import LoxExpr.Proofs.Grammar.Limit
import LoxExpr.Proofs.Grammar.Relabelling
import LoxExpr.Proofs.Lexical.Joining
import LoxExpr.Proofs.Lexical.Layout
import LoxExpr.Proofs.Lexical.Lines
import LoxExpr.Proofs.Lexical.Segmentation
import LoxExpr.Proofs.Text.Family
import LoxExpr.Text.Cursor
import LoxExpr.Trace.Record
import LoxExpr.Proofs.Grammar.Peak
import LoxExpr.Proofs.Lexical.Continuation
import LoxExpr.Proofs.Lexical.Dump
import LoxExpr.Proofs.Expr.Calculator
import LoxExpr.Proofs.Lexical.Rescanning
import LoxExpr.Proofs.Lexical.Sweep
