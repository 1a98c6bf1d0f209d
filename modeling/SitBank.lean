import SitBank.Admin.AuditPages
import SitBank.Admin.CaseDecisions
import SitBank.Admin.DeadInvites
import SitBank.Admin.InviteStarts
import SitBank.Admin.LiveInvites
import SitBank.Admin.MakerChecker
import SitBank.Admin.RequestIntegrity
import SitBank.Admin.ReviewedLocks
import SitBank.Admin.Separation
import SitBank.Admin.StartOutlines
import SitBank.Attempts.GuessBound
import SitBank.Attempts.OtpBound
import SitBank.Audit.Anchor
import SitBank.Audit.AppendOnly
import SitBank.Audit.ChainWriters
import SitBank.Audit.FreshAnchors
import SitBank.Audit.RequiredEvents
import SitBank.Audit.Settlement
import SitBank.Auth.CodePaths
import SitBank.Auth.EmailIdentities
import SitBank.Auth.PasswordHashing
import SitBank.Auth.PasswordHistory
import SitBank.Auth.ProvedAddresses
import SitBank.Auth.ProvedSignIns
import SitBank.Auth.RecoveryCodes
import SitBank.Auth.ResetFlows
import SitBank.Auth.TotpReplay
import SitBank.Banking.Amounts
import SitBank.Banking.Atomicity
import SitBank.Banking.AuthorizedTransfers
import SitBank.Banking.Conservation
import SitBank.Banking.DailyLimits
import SitBank.Banking.FreezeBarrier
import SitBank.Banking.PayeeRemoval
import SitBank.Banking.ReservationGaps
import SitBank.Banking.SingleSpend
import SitBank.Banking.StatementExport
import SitBank.Banking.StatementMonths
import SitBank.Banking.Statements
import SitBank.Banking.TopUpApproval
import SitBank.Browser.OneSession
import SitBank.Browser.RiskAgreement
import SitBank.Browser.RiskReauth
import SitBank.Browser.Terminations
import SitBank.Mfa.EnvelopeHistory
import SitBank.Mfa.KeyRotation
import SitBank.Python.Decimal
import SitBank.Redaction.Metadata
import SitBank.Redaction.ShownTexts
import SitBank.Security.AccessExact
import SitBank.Security.AlertDelivery
import SitBank.Security.AlertRules
import SitBank.Security.BaselineRuns
import SitBank.Security.CounterBounds
import SitBank.Security.IntegrityBackfill
import SitBank.Security.RetentionRuns
import SitBank.Security.RetryDelays
import SitBank.Sessions.Revocation
import SitBank.Sessions.SignedPayloads
