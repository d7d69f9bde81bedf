import Audience.Compiler
import Audience.Contact
import Audience.Environment
import Audience.Report.ActionKit
import Audience.Selection
import Audience.Settings.Document
import Audience.Proofs.Evaluation
import Audience.Proofs.Items
import Audience.Proofs.Denotation
import Audience.Proofs.Templates
import Audience.Proofs.Shape
import Audience.Proofs.StatementReading
import Audience.Proofs.Subscription
import Audience.Proofs.TurnedRequests
import Audience.Proofs.Placeholders
import Audience.Proofs.ConditionMeaning
import Audience.Proofs.ShownColumns
import Audience.Proofs.GroupReading
import Audience.Proofs.Spellings
import Audience.Proofs.SearchPatterns
import Audience.Proofs.Searches
import Audience.Proofs.QueryText
import Audience.Proofs.ReorderedRequests
import Audience.Proofs.WrittenGroups
import Audience.Proofs.FirstFailure
import Audience.Proofs.Accounts
import Audience.Proofs.FreeText
import Audience.Proofs.DateReading
import Audience.Proofs.DateLiterals
import Audience.Proofs.EnteredDates
import Audience.Proofs.EnteredAmounts
import Audience.Proofs.Thresholds
import Audience.Proofs.ContactFilters
import Audience.Proofs.RadiusFilters
import Audience.Proofs.FallbackChains
import Audience.Proofs.PlanSteps
import Audience.Proofs.ExtensionColumns
import Audience.Proofs.BoundedStatements
import Audience.Proofs.WildcardCuts
import Audience.Proofs.CompanionNames
import Audience.Proofs.BuildableFilters
import Audience.Proofs.NormalForms
import Audience.Proofs.RowOrder
import Audience.Proofs.Escapes
import Audience.Proofs.Addresses
import Audience.Proofs.SentQueries
import Audience.Proofs.PostedPaths
import Audience.Proofs.HandedReports
import Audience.Proofs.ReportNames
