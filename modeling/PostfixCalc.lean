import PostfixCalc.Journal
import PostfixCalc.Main
import PostfixCalc.Session.Calculators
import PostfixCalc.Session.Vocabularies
import PostfixCalc.Proofs.Expression
import PostfixCalc.Proofs.PostfixValue
import PostfixCalc.Proofs.FirstFault
import PostfixCalc.Proofs.ExactText
import PostfixCalc.Proofs.Folding
import PostfixCalc.Proofs.TraceTruth
import PostfixCalc.Proofs.LiteralForms
import PostfixCalc.Proofs.NamesUsed
import PostfixCalc.Proofs.ExactPower
import PostfixCalc.Proofs.FloorRoot
import PostfixCalc.Proofs.IntegerAgreement
import PostfixCalc.Proofs.CommandOutput
import PostfixCalc.Proofs.NewtonDescent
import PostfixCalc.Proofs.RationalFormula
import PostfixCalc.Proofs.RationalRoot
import PostfixCalc.Approx.PiMemo
import PostfixCalc.Proofs.ArctanSeries
import PostfixCalc.Proofs.PiDecimals
import PostfixCalc.Proofs.LastRegistration
import PostfixCalc.Proofs.WordLayout
import PostfixCalc.Proofs.CanonicalText
import PostfixCalc.Proofs.TruncatedDecimal
import PostfixCalc.Proofs.JournalEffects
import PostfixCalc.Proofs.TraceLayout
import PostfixCalc.Proofs.LaterDecimals
import PostfixCalc.Proofs.FiniteDoubles
import PostfixCalc.Proofs.SeriesLoop
import PostfixCalc.Proofs.EvaluationDemands
