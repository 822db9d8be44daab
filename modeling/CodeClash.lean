import CodeClash.Api.Grace
import CodeClash.Api.HitPoints
import CodeClash.Api.Matchmaking
import CodeClash.Auth.RateLimit
import CodeClash.Auth.Tokens
import CodeClash.Backend.Cache
import CodeClash.Backend.Chat
import CodeClash.Backend.Leaderboard
import CodeClash.Backend.Ready
import CodeClash.Backend.Requests
import CodeClash.Backend.Revocation
import CodeClash.Backend.Spells
import CodeClash.Backend.Stats
import CodeClash.Backend.Weekly
import CodeClash.Battle.Damage
import CodeClash.Battle.EndPaths
import CodeClash.Battle.Granting
import CodeClash.Battle.HitPoints
import CodeClash.Battle.Knockout
import CodeClash.Battle.Lock
import CodeClash.Battle.Ratings
import CodeClash.Battle.Recovery
import CodeClash.Battle.Timer
import CodeClash.Engine.Cleanup
import CodeClash.Engine.Damage
import CodeClash.Engine.Decline
import CodeClash.Engine.Shield
import CodeClash.Enhanced.Growth
import CodeClash.Enhanced.Search
import CodeClash.Enhanced.Transitions
import CodeClash.Grading.Output
import CodeClash.Grading.RoundTrip
import CodeClash.Judge.Benchmark
import CodeClash.Judge.FirstSolve
import CodeClash.Judge.Fraud
import CodeClash.Judge.FreeDamage
import CodeClash.Judge.Limiting
import CodeClash.Judge.Polling
import CodeClash.Judge.Samples
import CodeClash.Matchmaking.Creation
import CodeClash.Problems.ReadBack
import CodeClash.Rating.DailyLimit
import CodeClash.Rating.Decay
import CodeClash.Rating.Helpers
import CodeClash.Rating.LostUpdates
import CodeClash.Rating.Tiers
import CodeClash.Rooms.Alone
import CodeClash.Rooms.Damage
import CodeClash.Rooms.Events
import CodeClash.Rooms.Mana
import CodeClash.Rooms.Record
import CodeClash.Rooms.Scanning
import CodeClash.Seasonal.History
import CodeClash.Seasonal.Reset
import CodeClash.Session.Grace
import CodeClash.Session.Identity
import CodeClash.Social.PrivateRooms
import CodeClash.Spell.Reading
import CodeClash.Spell.Requests
