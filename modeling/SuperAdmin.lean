import SuperAdmin.Lib.Prog
import SuperAdmin.Lib.Pool
import SuperAdmin.Lib.Table
import SuperAdmin.Lib.Least
import SuperAdmin.Lib.Snapshot
import SuperAdmin.Lib.Dict
import SuperAdmin.Go.Time
import SuperAdmin.Go.Errors
import SuperAdmin.Go.Encoding
import SuperAdmin.Go.Parse
import SuperAdmin.Domain
import SuperAdmin.Jwt
import SuperAdmin.Ports
import SuperAdmin.Store
import SuperAdmin.Statements
import SuperAdmin.Usecase.Auth
import SuperAdmin.Usecase.Team
import SuperAdmin.Usecase.Clients
import SuperAdmin.Usecase.Journal
import SuperAdmin.Usecase.Errors
import SuperAdmin.Tokens
import SuperAdmin.Users
import SuperAdmin.Calls
import SuperAdmin.Endings
import SuperAdmin.Authz
import SuperAdmin.Http.Response
import SuperAdmin.Http.Request
import SuperAdmin.Http.Middleware
import SuperAdmin.Http.Handler
import SuperAdmin.Http.Journal
import SuperAdmin.Http.Router
import SuperAdmin.Http.Answers
import SuperAdmin.Http.Contract
import SuperAdmin.Http.Served
import SuperAdmin.Http.Issued
import SuperAdmin.Sample
import SuperAdmin.Journal.Pages
import SuperAdmin.Journal.Walk
import SuperAdmin.Journal.Slice
import SuperAdmin.Web.Format
import SuperAdmin.Web.Store
import SuperAdmin.Web.Browser
import SuperAdmin.Web.Client
import SuperAdmin.Web.Wire
import SuperAdmin.Web.Mutations
import SuperAdmin.Web.SessionStore
import SuperAdmin.Journal.Screen
import SuperAdmin.Journal.Confidential
import SuperAdmin.Rotation.Origin
import SuperAdmin.Rotation.Once
import SuperAdmin.Rotation.Finality
import SuperAdmin.Rotation.Chain
import SuperAdmin.Login.Privacy
import SuperAdmin.Login.Lockout
import SuperAdmin.Access.Passing
import SuperAdmin.Access.Staleness
import SuperAdmin.Access.RevocationList
import SuperAdmin.Access.Logout
import SuperAdmin.Audit.Clients
import SuperAdmin.Audit.Completeness
import SuperAdmin.Team.Ownership
import SuperAdmin.Clients.Tenants
import SuperAdmin.Clients.LastMessage
import SuperAdmin.Rotation.Purged
import SuperAdmin.Rotation.Purge
import SuperAdmin.Rotation.Usable
import SuperAdmin.Web.Tabs
import SuperAdmin.Web.SingleFlight
import SuperAdmin.Web.OnePage
import SuperAdmin.Overview.Trials
import SuperAdmin.Clients.Suspension
import SuperAdmin.Clients.TrialEnd
import SuperAdmin.Rotation.SignOut
import SuperAdmin.Rotation.Abreast
import SuperAdmin.Rotation.Separate
import SuperAdmin.Rotation.FakeTokens
import SuperAdmin.Rotation.Double
import SuperAdmin.Team.Invitations
import SuperAdmin.Login.Interrupted
import SuperAdmin.Overview.Snapshot
import SuperAdmin.Access.RoundTrip
import SuperAdmin.Http.ErrorLeaves
import SuperAdmin.Go.Scan
import SuperAdmin.Hash.Argon2
import SuperAdmin.Clients.OpenTickets
import SuperAdmin.Clients.Assignee
import SuperAdmin.Clients.Committed
import SuperAdmin.Web.Outcome
import SuperAdmin.Web.Restore
import SuperAdmin.Web.SharedRefresh
import SuperAdmin.Lib.Course
import SuperAdmin.Web.Promises
import SuperAdmin.Lib.QueryCache
import SuperAdmin.Web.ClientSection
import SuperAdmin.Web.ClientAnswers
import SuperAdmin.Web.ClientCache
import SuperAdmin.Web.RelativeTime
import SuperAdmin.Web.RuDate
import SuperAdmin.Go.Format
import SuperAdmin.Config
import SuperAdmin.Http.Cors
import SuperAdmin.Lib.Monitor
import SuperAdmin.Access.Mediation
import SuperAdmin.Lib.TokenFamily
import SuperAdmin.Rotation.Sessions
import SuperAdmin.Lib.EventLog
import SuperAdmin.Http.Repertoire
import SuperAdmin.Lib.History
import SuperAdmin.Access.LockedOut
import SuperAdmin.Audit.Replay
import SuperAdmin.Lib.Redo
import SuperAdmin.Seed
import SuperAdmin.Web.NewClientPage
import SuperAdmin.Audit.Grounds
import SuperAdmin.Lib.Paging
import SuperAdmin.Journal.Growing
import SuperAdmin.Lib.Alike
import SuperAdmin.Login.Hashes
import SuperAdmin.Access.Confinement
import SuperAdmin.Access.Causes
import SuperAdmin.Http.Reported
